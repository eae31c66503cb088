import Cxloom.LoomMem.TokenBlocks
import Cxloom.LoomMem.WriteBuffer
import Mathlib.Data.List.Induction
import Mathlib.Data.List.Nodup

/-!
# No write buffer loses an update

A context that holds the lease of a block is the only one that stores into it, and the lease keeps
the sidecar of the block as it is.  So the modified releases of a block form one sequence: each of
them copied what the one before had left, and the version counts them.
-/

namespace Cxloom.LoomMem

variable {cluster : Cluster}

/-- Bytes left by the last of a list of modified releases. -/
def WriteScene.leftBy (scene : WriteScene cluster) (records : List CommitRecord) : Nat → UInt8 :=
  (records.getLast?.map CommitRecord.left).getD scene.content

@[simp] theorem WriteScene.leftBy_append (scene : WriteScene cluster)
    (records : List CommitRecord) (record : CommitRecord) :
    scene.leftBy (records ++ [record]) = record.left := by
  simp [leftBy]

/-- A modified release of a block copied and left what it should after the bytes `previous`. -/
structure CommitRecord.Follows (geometry : ObjectGeometry) (block : Nat) (previous : Nat → UInt8)
    (record : CommitRecord) : Prop where
  /-- The buffer kept its size. -/
  sized : record.written.length = record.copied.length
  /-- The copied part of the block is what was there. -/
  copied : ∀ position, geometry.blockOf position = block → record.offset ≤ position →
    position < record.offset + record.copied.length →
      record.copied[position - record.offset]? = some (previous position)
  /-- The buffer replaces its part of the block and nothing else. -/
  applied : ∀ position, geometry.blockOf position = block →
    record.left position =
      if record.offset ≤ position ∧ position < record.offset + record.written.length then
        record.written.getD (position - record.offset) 0
      else previous position

/-- An aborted buffer copied what the modified releases before had left. -/
def AbortRecord.Follows (geometry : ObjectGeometry) (previous : Nat → UInt8)
    (record : AbortRecord) : Prop :=
  ∀ position, geometry.blockOf position = record.block → record.offset ≤ position →
    position < record.offset + record.copied.length →
      record.copied[position - record.offset]? = some (previous position)

namespace WritePhase

/-- Leases that the context has and still has to release. -/
def held : WritePhase → List HeldLease
  | idle => []
  | requesting _ _ _ leases | waiting _ _ _ _ leases | cancelling _ leases
  | awaitingCancel _ leases | unwinding leases | copying _ _ leases _ => leases
  | owned buffer => buffer.leases
  | committing _ remaining | aborting _ remaining => remaining
  | storing _ held remaining _ => held :: remaining

def pendingId : WritePhase → Option Nat
  | waiting _ _ _ requestId _ | cancelling requestId _ | awaitingCancel requestId _ =>
      some requestId
  | idle | requesting _ _ _ _ | unwinding _ | copying _ _ _ _ | owned _ | committing _ _
  | storing _ _ _ _ | aborting _ _ => none

/-- Requests of the context that are not finished. -/
def ids (phase : WritePhase) : List Nat :=
  phase.pendingId.toList ++ phase.held.map HeldLease.requestId

/-- First byte and contents of the private copy. -/
def snapshot : WritePhase → Option (Nat × List UInt8)
  | copying offset _ _ copied => some (offset, copied)
  | owned buffer | committing buffer _ | storing buffer _ _ _ | aborting buffer _ =>
      some (buffer.offset, buffer.copied)
  | idle | requesting _ _ _ _ | waiting _ _ _ _ _ | cancelling _ _ | awaitingCancel _ _
  | unwinding _ => none

def StoresAt (block : Nat) : WritePhase → Prop
  | storing _ held _ _ => held.block = block
  | idle | requesting _ _ _ _ | waiting _ _ _ _ _ | cancelling _ _ | awaitingCancel _ _
  | unwinding _ | copying _ _ _ _ | owned _ | committing _ _ | aborting _ _ => False

/-- What a call has established about its request and its buffer. -/
def Established (scene : WriteScene cluster) (issued : cluster.Host → Nat → Option BlockKey)
    (host : cluster.Host) : WritePhase → Prop
  | waiting _ _ block requestId _ => issued host requestId = some ⟨scene.object, block⟩
  | cancelling requestId _ | awaitingCancel requestId _ => (issued host requestId).isSome
  | owned buffer => buffer.storage.length = buffer.copied.length
  | committing buffer _ | storing buffer _ _ _ =>
      buffer.storage.length = buffer.copied.length ∧
        buffer.offset + buffer.storage.length ≤ scene.geometry.bytes
  | idle | requesting _ _ _ _ | unwinding _ | copying _ _ _ _ | aborting _ _ => True

end WritePhase

namespace WriteWorld

variable {scene : WriteScene cluster} {world next : WriteWorld cluster} {context : Nat}
  {phase phase' : WritePhase}

/-- The writeback of a block under way: its epoch is open and the first bytes are stored. -/
structure StoringInv (scene : WriteScene cluster) (world : WriteWorld cluster)
    (buffer : WriteBuffer) (held : HeldLease) (stored : Nat) : Prop where
  odd : (world.tokens.state.block held.lease.key).writebackEpoch % 2 = 1
  bounded : stored ≤ scene.geometry.copyEnd buffer held.block -
    scene.geometry.copyBegin buffer held.block
  /-- The stored bytes are those of the buffer, the others those of the last release. -/
  bytes : ∀ position, scene.geometry.blockOf position = held.block →
    world.bytes position =
      if scene.geometry.copyBegin buffer held.block ≤ position ∧
          position < scene.geometry.copyBegin buffer held.block + stored then
        buffer.storage.getD (position - buffer.offset) 0
      else scene.leftBy (world.commits held.block) position

/-- What holds of one context in a phase. -/
structure PhaseInv (scene : WriteScene cluster) (world : WriteWorld cluster) (context : Nat)
    (phase : WritePhase) : Prop where
  /-- Its requests are different. -/
  nodup : phase.ids.Nodup
  leases : ∀ entry ∈ phase.held,
    world.tokens.leased (scene.contextHost context) entry.requestId = some entry.lease ∧
      entry.lease.key.object = scene.object
  /-- Its call has established what it relies on. -/
  established : phase.Established scene world.tokens.issued (scene.contextHost context)
  /-- Its private copy is what the last release of each block left. -/
  copied : ∀ offset copied, phase.snapshot = some (offset, copied) → ∀ entry ∈ phase.held,
    ∀ position, scene.geometry.blockOf position = entry.block → offset ≤ position →
      position < offset + copied.length →
        copied[position - offset]? = some (scene.leftBy (world.commits entry.block) position)
  /-- Its writeback is under way. -/
  stores : ∀ buffer held rest stored, phase = .storing buffer held rest stored →
    StoringInv scene world buffer held stored

/-- The invariant of every run. -/
structure WriteInv (scene : WriteScene cluster) (world : WriteWorld cluster) : Prop where
  /-- The services keep their invariant. -/
  named : world.tokens.NamedInv
  phases : ∀ context, PhaseInv scene world context (world.phase context)
  apart : ∀ first second, first ≠ second → scene.contextHost first = scene.contextHost second →
    ∀ requestId ∈ (world.phase first).ids, requestId ∉ (world.phase second).ids
  /-- A block that nobody stores into is as the last release left it. -/
  resting : ∀ position,
    (∀ context, ¬(world.phase context).StoresAt (scene.geometry.blockOf position)) →
      world.bytes position =
        scene.leftBy (world.commits (scene.geometry.blockOf position)) position
  /-- The version counts the modified releases. -/
  version : ∀ block, (world.tokens.state.block ⟨scene.object, block⟩).version =
    (world.commits block).length
  follows : ∀ block index (record : CommitRecord), (world.commits block)[index]? = some record →
    record.Follows scene.geometry block (scene.leftBy ((world.commits block).take index))
  aborted : ∀ record : AbortRecord, record ∈ world.aborts →
    record.position ≤ (world.commits record.block).length ∧
      record.Follows scene.geometry
      (scene.leftBy ((world.commits record.block).take record.position))

/-! ## Frames -/

/-- A context only depends on its own leases, on their sidecars and on their blocks. -/
theorem PhaseInv.congr (inv : PhaseInv scene world context phase)
    (leased : ∀ entry ∈ phase.held,
      next.tokens.leased (scene.contextHost context) entry.requestId = some entry.lease)
    (issued : ∀ requestId key,
      world.tokens.issued (scene.contextHost context) requestId = some key →
      next.tokens.issued (scene.contextHost context) requestId = some key)
    (sidecar : ∀ entry ∈ phase.held,
      next.tokens.state.block entry.lease.key = world.tokens.state.block entry.lease.key)
    (commits : ∀ entry ∈ phase.held, next.commits entry.block = world.commits entry.block)
    (bytes : ∀ entry ∈ phase.held, ∀ position,
      scene.geometry.blockOf position = entry.block → next.bytes position = world.bytes position) :
    PhaseInv scene next context phase where
  nodup := inv.nodup
  leases entry member := ⟨leased entry member, (inv.leases entry member).2⟩
  established := by
    have established := inv.established
    cases phase with
    | waiting offset bytes block requestId leases =>
        exact issued requestId _ established
    | cancelling requestId leases | awaitingCancel requestId leases =>
        obtain ⟨key, found⟩ := Option.isSome_iff_exists.mp established
        exact Option.isSome_iff_exists.mpr ⟨key, issued requestId key found⟩
    | idle | requesting | unwinding | copying | owned | committing | storing | aborting =>
        exact established
  copied offset copied found entry member position inside := by
    rw [commits entry member]
    exact inv.copied offset copied found entry member position inside
  stores buffer held rest stored found := by
    have member : held ∈ phase.held := by
      rw [found]
      exact List.mem_cons_self
    have storing := inv.stores buffer held rest stored found
    refine ⟨?_, storing.bounded, fun position inside => ?_⟩
    · rw [sidecar held member]
      exact storing.odd
    · rw [bytes held member position inside, commits held member]
      exact storing.bytes position inside

theorem call_some {op : TokenOp cluster} {continue_ : Status → TokenConfig cluster → WritePhase}
    (called : world.call context op continue_ = some next) :
    ∃ status tokens, world.tokens.step op = some (status, tokens) ∧
      next = (world.withTokens tokens).setPhase context (continue_ status tokens) := by
  obtain ⟨⟨status, tokens⟩, performed, rfl⟩ := Option.map_eq_some_iff.mp called
  exact ⟨status, tokens, performed, rfl⟩

theorem setPhase_phase (world : WriteWorld cluster) (context other : Nat) (phase : WritePhase) :
    (world.setPhase context phase).phase other =
      if other = context then phase else world.phase other := by
  simp [setPhase, Function.update_apply]

namespace WriteInv

/-- Two contexts never hold leases for one block. -/
theorem exclusive (inv : WriteInv scene world) {first second : Nat} (different : first ≠ second)
    {one two : HeldLease} (oneHeld : one ∈ (world.phase first).held)
    (twoHeld : two ∈ (world.phase second).held) : one.lease.key ≠ two.lease.key := by
  intro same
  obtain ⟨oneLeased, -⟩ := (inv.phases first).leases one oneHeld
  obtain ⟨twoLeased, -⟩ := (inv.phases second).leases two twoHeld
  obtain ⟨hosts, ids⟩ := inv.named.token.caller_unique oneLeased twoLeased same
  refine inv.apart first second different hosts one.requestId ?_ ?_
  · exact List.mem_append_right _ (List.mem_map_of_mem oneHeld)
  · rw [ids]
    exact List.mem_append_right _ (List.mem_map_of_mem twoHeld)

theorem exclusive_self (inv : WriteInv scene world) {one two : HeldLease}
    (oneHeld : one ∈ (world.phase context).held) (twoHeld : two ∈ (world.phase context).held)
    (different : one.requestId ≠ two.requestId) : one.lease.key ≠ two.lease.key := by
  intro same
  obtain ⟨oneLeased, -⟩ := (inv.phases context).leases one oneHeld
  obtain ⟨twoLeased, -⟩ := (inv.phases context).leases two twoHeld
  exact different (inv.named.token.caller_unique oneLeased twoLeased same).2

theorem block_ne (inv : WriteInv scene world) {first second : Nat} {one two : HeldLease}
    (oneHeld : one ∈ (world.phase first).held) (twoHeld : two ∈ (world.phase second).held)
    (different : one.lease.key ≠ two.lease.key) : one.block ≠ two.block := by
  intro same
  have oneObject := ((inv.phases first).leases one oneHeld).2
  have twoObject := ((inv.phases second).leases two twoHeld).2
  apply different
  calc
    one.lease.key = ⟨one.lease.key.object, one.block⟩ := rfl
    _ = ⟨two.lease.key.object, two.block⟩ := by rw [oneObject, twoObject, same]
    _ = two.lease.key := rfl

/-- Requests stay apart when a context only takes up requests that nobody else has. -/
theorem apart_setPhase (inv : WriteInv scene world)
    (ids : ∀ requestId ∈ phase.ids, requestId ∈ (world.phase context).ids ∨
      ∀ other, other ≠ context → scene.contextHost other = scene.contextHost context →
        requestId ∉ (world.phase other).ids)
    (first second : Nat) (different : first ≠ second)
    (hosts : scene.contextHost first = scene.contextHost second) (requestId : Nat)
    (member : requestId ∈ ((world.setPhase context phase).phase first).ids) :
    requestId ∉ ((world.setPhase context phase).phase second).ids := by
  rw [setPhase_phase] at member ⊢
  split at member
  · rename_i same
    subst same
    rw [if_neg (Ne.symm different)]
    rcases ids requestId member with old | fresh
    · exact inv.apart first second different hosts requestId old
    · exact fresh second (Ne.symm different) hosts.symm
  · split
    · rename_i other same
      subst same
      intro entered
      rcases ids requestId entered with old | fresh
      · exact inv.apart first second different hosts requestId member old
      · exact fresh first different hosts member
    · exact inv.apart first second different hosts requestId member

theorem setPhase (inv : WriteInv scene world) (fits : PhaseInv scene world context phase)
    (ids : ∀ requestId ∈ phase.ids, requestId ∈ (world.phase context).ids ∨
      ∀ other, other ≠ context → scene.contextHost other = scene.contextHost context →
        requestId ∉ (world.phase other).ids)
    (rests : ∀ position, (world.phase context).StoresAt (scene.geometry.blockOf position) →
      ¬phase.StoresAt (scene.geometry.blockOf position) →
        world.bytes position =
          scene.leftBy (world.commits (scene.geometry.blockOf position)) position) :
    WriteInv scene (world.setPhase context phase) where
  named := inv.named
  phases other := by
    rw [setPhase_phase]
    split
    · rename_i same
      rw [same]
      exact ⟨fits.nodup, fits.leases, fits.established, fits.copied,
        fun buffer held rest stored found =>
          ⟨(fits.stores buffer held rest stored found).odd,
            (fits.stores buffer held rest stored found).bounded,
            (fits.stores buffer held rest stored found).bytes⟩⟩
    · exact (inv.phases other).congr
        (fun entry member => ((inv.phases other).leases entry member).1)
        (fun _ _ found => found) (fun _ _ => rfl) (fun _ _ => rfl) (fun _ _ _ _ => rfl)
  apart := inv.apart_setPhase ids
  resting position nobody := by
    have leaves : ¬phase.StoresAt (scene.geometry.blockOf position) := by
      have here := nobody context
      rwa [setPhase_phase, if_pos rfl] at here
    by_cases stored : (world.phase context).StoresAt (scene.geometry.blockOf position)
    · exact rests position stored leaves
    · refine inv.resting position fun other => ?_
      by_cases same : other = context
      · rwa [same]
      · have elsewhere := nobody other
        rwa [setPhase_phase, if_neg same] at elsewhere
  version := inv.version
  follows := inv.follows
  aborted := inv.aborted

/-- The services may act as long as no context's lease is presented or collected again. -/
theorem serve (inv : WriteInv scene world) {op : TokenOp cluster} {status : Status}
    {tokens : TokenConfig cluster} (performed : world.tokens.step op = some (status, tokens))
    (unmodified : ∀ host requestId, op ≠ .release host requestId true)
    (absent : ∀ context, ∀ entry ∈ (world.phase context).held,
      op ≠ .wait (scene.contextHost context) entry.requestId ∧
        ¬world.tokens.Presents entry.lease.key op) :
    WriteInv scene (world.withTokens tokens) where
  named := TokenConfig.step_named inv.named performed
  phases context := by
    have keeps := fun entry member => TokenConfig.step_keeps inv.named performed
      ((inv.phases context).leases entry member).1 (absent context entry member).1
      (absent context entry member).2
    exact (inv.phases context).congr (fun entry member => (keeps entry member).1)
      (fun _ _ found => TokenConfig.step_issued inv.named performed found)
      (fun entry member => (keeps entry member).2) (fun _ _ => rfl) (fun _ _ _ _ => rfl)
  apart := inv.apart
  resting := inv.resting
  version block := (TokenConfig.step_version inv.named performed unmodified _).trans
    (inv.version block)
  follows := inv.follows
  aborted := inv.aborted

theorem issued (inv : WriteInv scene world) {requestId : Nat}
    (member : requestId ∈ (world.phase context).ids) :
    (world.tokens.issued (scene.contextHost context) requestId).isSome := by
  have own := inv.phases context
  rcases List.mem_append.mp member with pending | leased
  · have established := own.established
    cases phase : world.phase context with
    | waiting offset bytes block requestId' leases =>
        rw [phase] at pending established
        obtain rfl : requestId = requestId' := by simpa [WritePhase.pendingId] using pending
        exact Option.isSome_iff_exists.mpr ⟨_, established⟩
    | cancelling requestId' leases | awaitingCancel requestId' leases =>
        rw [phase] at pending established
        obtain rfl : requestId = requestId' := by simpa [WritePhase.pendingId] using pending
        exact established
    | idle | requesting | unwinding | copying | owned | committing | storing | aborting =>
        simp [phase, WritePhase.pendingId] at pending
  · obtain ⟨entry, held, rfl⟩ := List.mem_map.mp leased
    exact Option.isSome_iff_exists.mpr ⟨_, inv.named.leases _ _ _ (own.leases entry held).1⟩

end WriteInv

/-- A context may forget leases and requests. -/
theorem PhaseInv.shrink (inv : PhaseInv scene world context phase) (nodup : phase'.ids.Nodup)
    (held : ∀ entry ∈ phase'.held, entry ∈ phase.held)
    (established : phase'.Established scene world.tokens.issued (scene.contextHost context))
    (snapshot : ∀ copy, phase'.snapshot = some copy → phase.snapshot = some copy)
    (still : ∀ block, ¬phase'.StoresAt block) : PhaseInv scene world context phase' where
  nodup := nodup
  leases entry member := inv.leases entry (held entry member)
  established := established
  copied offset copied found entry member :=
    inv.copied offset copied (snapshot _ found) entry (held entry member)
  stores buffer storing rest stored found := by
    subst found
    exact (still storing.block rfl).elim

namespace WriteInv

/-- A context may forget leases and requests, unless it is storing. -/
theorem forget (inv : WriteInv scene world) (nodup : phase.ids.Nodup)
    (ids : ∀ requestId ∈ phase.ids, requestId ∈ (world.phase context).ids)
    (held : ∀ entry ∈ phase.held, entry ∈ (world.phase context).held)
    (established : phase.Established scene world.tokens.issued (scene.contextHost context))
    (snapshot : ∀ copy, phase.snapshot = some copy → (world.phase context).snapshot = some copy)
    (quiet : ∀ block, ¬(world.phase context).StoresAt block)
    (still : ∀ block, ¬phase.StoresAt block) :
    WriteInv scene (world.setPhase context phase) :=
  inv.setPhase ((inv.phases context).shrink nodup held established snapshot still)
    (fun requestId member => .inl (ids requestId member))
    (fun _ stored => (quiet _ stored).elim)

/-- A failed call turns to releasing what it has. -/
theorem unwind (inv : WriteInv scene world) {leases : List HeldLease}
    (held : (world.phase context).held = leases)
    (quiet : ∀ block, ¬(world.phase context).StoresAt block) :
    WriteInv scene (world.setPhase context (.unwinding leases.reverse)) := by
  have nodup := (List.nodup_append.mp (inv.phases context).nodup).2.1
  rw [held] at nodup
  refine inv.forget ?_ ?_ ?_ trivial (by simp [WritePhase.snapshot]) quiet
    (by simp [WritePhase.StoresAt])
  · change (leases.reverse.map HeldLease.requestId).Nodup
    rwa [List.map_reverse, List.nodup_reverse]
  · intro requestId member
    refine List.mem_append_right _ ?_
    rw [held]
    change requestId ∈ leases.reverse.map HeldLease.requestId at member
    rwa [List.map_reverse, List.mem_reverse] at member
  · intro entry member
    rw [held]
    exact List.mem_reverse.mp member

/-- Actions that present no lease and collect none. -/
theorem serve_quiet (inv : WriteInv scene world) {op : TokenOp cluster} {status : Status}
    {tokens : TokenConfig cluster} (performed : world.tokens.step op = some (status, tokens))
    (unmodified : ∀ host requestId, op ≠ .release host requestId true)
    (uncollected : ∀ host requestId, op ≠ .wait host requestId)
    (absent : ∀ key, ¬world.tokens.Presents key op) : WriteInv scene (world.withTokens tokens) :=
  inv.serve performed unmodified fun _ _ _ => ⟨uncollected _ _, absent _⟩

/-! ## Acquiring -/

theorem requesting (inv : WriteInv scene world) {offset bytes block : Nat}
    {leases : List HeldLease}
    (phase : world.phase context = .requesting offset bytes block leases) {status : Status}
    {tokens : TokenConfig cluster}
    (performed : world.tokens.step
      (.request (scene.contextHost context) ⟨scene.object, block⟩ false) = some (status, tokens)) :
    WriteInv scene ((world.withTokens tokens).setPhase context
      (if status.isOk then
        .waiting offset bytes block
          (world.tokens.state.nextRequestId (scene.contextHost context)) leases
      else .unwinding leases.reverse)) := by
  have served := inv.serve_quiet performed (by simp) (by simp) (fun _ => id)
  have same : (world.withTokens tokens).phase context = .requesting offset bytes block leases :=
    phase
  have held : ((world.withTokens tokens).phase context).held = leases := by
    rw [same]
    rfl
  cases ok : status.isOk with
  | false => exact served.unwind held (by simp [same, WritePhase.StoresAt])
  | true =>
      rcases TokenConfig.step_request inv.named performed with
        ⟨failed, -⟩ | ⟨-, -, fresh, issued, -⟩
      · rw [ok] at failed
        cases failed
      · have unused : ∀ other, scene.contextHost other = scene.contextHost context →
            world.tokens.state.nextRequestId (scene.contextHost context) ∉
              (world.phase other).ids := by
          intro other host member
          have drawn := inv.issued member
          rw [host, fresh] at drawn
          cases drawn
        have own := served.phases context
        rw [same] at own
        refine served.setPhase ⟨?_, own.leases, ?_, by simp [WritePhase.snapshot], by simp⟩ ?_
          (by simp [same, WritePhase.StoresAt])
        · have absent := unused context rfl
          rw [phase] at absent
          exact List.nodup_cons.mpr ⟨absent, own.nodup⟩
        · change tokens.issued _ _ = _
          simp [issued]
        · intro requestId member
          rcases List.mem_cons.mp member with new | old
          · exact .inr fun other _ host => new ▸ unused other host
          · left
            rw [same]
            exact old

theorem waiting (inv : WriteInv scene world) {offset bytes block requestId : Nat}
    {leases : List HeldLease}
    (phase : world.phase context = .waiting offset bytes block requestId leases) {status : Status}
    {tokens : TokenConfig cluster}
    (performed : world.tokens.step (.wait (scene.contextHost context) requestId) =
      some (status, tokens)) :
    WriteInv scene ((world.withTokens tokens).setPhase context
      (afterWait scene (scene.contextHost context) offset bytes block requestId leases status
        tokens)) := by
  have mine : requestId ∈ (world.phase context).ids := by
    rw [phase]
    exact List.mem_cons_self
  have unheld : ∀ other, ∀ entry ∈ (world.phase other).held,
      TokenOp.wait (scene.contextHost context) requestId ≠
        .wait (scene.contextHost other) entry.requestId := by
    intro other entry member collected
    injection collected with host same
    have listed : requestId ∈ (world.phase other).held.map HeldLease.requestId :=
      List.mem_map.mpr ⟨entry, member, same.symm⟩
    by_cases here : other = context
    · subst here
      have nodup := (inv.phases other).nodup
      rw [phase] at nodup listed
      exact (List.nodup_cons.mp nodup).1 listed
    · exact inv.apart context other (Ne.symm here) host requestId mine
        (List.mem_append_right _ listed)
  have served := inv.serve performed (by simp)
    fun other entry member => ⟨unheld other entry member, id⟩
  have same : (world.withTokens tokens).phase context =
      .waiting offset bytes block requestId leases := phase
  have own := served.phases context
  rw [same] at own
  have quiet : ∀ position, ((world.withTokens tokens).phase context).StoresAt position → False := by
    simp [same, WritePhase.StoresAt]
  unfold afterWait
  split
  · rename_i lease _ found
    have named := served.named.leases _ _ _ found
    have asked : tokens.issued (scene.contextHost context) requestId =
        some ⟨scene.object, block⟩ := own.established
    have key : lease.key = ⟨scene.object, block⟩ := Option.some.inj (named.symm.trans asked)
    have nodup : ((leases ++ [HeldLease.mk requestId lease]).map HeldLease.requestId).Nodup := by
      have old := own.nodup
      rw [List.map_append, List.nodup_append_comm]
      exact old
    have held : ∀ entry ∈ leases ++ [HeldLease.mk requestId lease],
        tokens.leased (scene.contextHost context) entry.requestId = some entry.lease ∧
          entry.lease.key.object = scene.object := by
      intro entry member
      rcases List.mem_append.mp member with old | new
      · exact own.leases entry old
      · rw [List.mem_singleton.mp new]
        exact ⟨found, congrArg BlockKey.object key⟩
    have ids : ∀ other ∈ (leases ++ [HeldLease.mk requestId lease]).map HeldLease.requestId,
        other ∈ ((world.withTokens tokens).phase context).ids := by
      intro other member
      rw [same]
      rw [List.map_append, List.mem_append] at member
      rcases member with old | new
      · exact List.mem_cons_of_mem _ old
      · rw [List.mem_singleton.mp new]
        exact List.mem_cons_self
    split
    · refine served.setPhase ⟨nodup, held, trivial, ?_, by simp⟩
        (fun other member => .inl (ids other member)) (fun _ stored => (quiet _ stored).elim)
      intro start copied snapshot entry _ position _ low high
      obtain ⟨rfl, rfl⟩ : offset = start ∧ [] = copied := by
        simpa [WritePhase.snapshot] using snapshot
      simp only [List.length_nil] at high
      omega
    · exact served.setPhase ⟨nodup, held, trivial, by simp [WritePhase.snapshot], by simp⟩
        (fun other member => .inl (ids other member)) (fun _ stored => (quiet _ stored).elim)
  · refine served.forget own.nodup ?_ ?_ ?_ (by simp [WritePhase.snapshot]) quiet
      (by simp [WritePhase.StoresAt])
    · intro other member
      rw [same]
      exact member
    · intro entry member
      rw [same]
      exact member
    · exact Option.isSome_iff_exists.mpr ⟨_, own.established⟩

theorem cancelling (inv : WriteInv scene world) {requestId : Nat} {leases : List HeldLease}
    (phase : world.phase context = .cancelling requestId leases) {status : Status}
    {tokens : TokenConfig cluster}
    (performed : world.tokens.step (.cancelAndWait (scene.contextHost context) requestId) =
      some (status, tokens)) :
    WriteInv scene ((world.withTokens tokens).setPhase context
      (if status.isOk then .awaitingCancel requestId leases else .unwinding leases.reverse)) := by
  have served := inv.serve_quiet performed (by simp) (by simp) (fun _ => id)
  have same : (world.withTokens tokens).phase context = .cancelling requestId leases := phase
  have own := served.phases context
  rw [same] at own
  split
  · refine served.forget own.nodup ?_ ?_ own.established (by simp [WritePhase.snapshot])
      (by simp [same, WritePhase.StoresAt]) (by simp [WritePhase.StoresAt])
    · intro other member
      rw [same]
      exact member
    · intro entry member
      rw [same]
      exact member
  · exact served.unwind (by rw [same]; rfl) (by simp [same, WritePhase.StoresAt])

/-- A byte of a block that a context holds is as the last release left it, unless the context is
storing itself. -/
theorem byte_of_held (inv : WriteInv scene world) {entry : HeldLease}
    (member : entry ∈ (world.phase context).held)
    (quiet : ∀ block, ¬(world.phase context).StoresAt block) {position : Nat}
    (inside : scene.geometry.blockOf position = entry.block) :
    world.bytes position = scene.leftBy (world.commits entry.block) position := by
  rw [← inside]
  refine inv.resting position fun other stores => ?_
  rw [inside] at stores
  by_cases same : other = context
  · exact quiet entry.block (same ▸ stores)
  · cases phase : world.phase other with
    | storing buffer held rest stored =>
        rw [phase] at stores
        have heldMember : held ∈ (world.phase other).held := by
          rw [phase]
          exact List.mem_cons_self
        exact inv.block_ne heldMember member (inv.exclusive same heldMember member) stores
    | idle | requesting | waiting | cancelling | awaitingCancel | unwinding | copying | owned
    | committing | aborting =>
        rw [phase] at stores
        exact stores

theorem copying (inv : WriteInv scene world) {offset bytes : Nat} {leases : List HeldLease}
    {copied : List UInt8} (phase : world.phase context = .copying offset bytes leases copied) :
    WriteInv scene (world.setPhase context
      (.copying offset bytes leases (copied ++ [world.bytes (offset + copied.length)]))) := by
  have own := inv.phases context
  have quiet : ∀ block, ¬(world.phase context).StoresAt block := by
    simp [phase, WritePhase.StoresAt]
  rw [phase] at own
  refine inv.setPhase ⟨own.nodup, own.leases, trivial, ?_, by simp⟩ ?_
    (fun _ stored => (quiet _ stored).elim)
  · intro start storage snapshot entry member position inside low high
    obtain ⟨rfl, rfl⟩ : offset = start ∧
        copied ++ [world.bytes (offset + copied.length)] = storage := by
      simpa [WritePhase.snapshot] using snapshot
    by_cases old : position < offset + copied.length
    · rw [List.getElem?_append_left (by omega)]
      exact own.copied offset copied rfl entry member position inside low old
    · obtain rfl : position = offset + copied.length := by
        simp only [List.length_append, List.length_cons, List.length_nil] at high
        omega
      have memberHere : entry ∈ (world.phase context).held := by
        rw [phase]
        exact member
      rw [inv.byte_of_held memberHere quiet inside]
      simp
  · intro requestId member
    left
    rw [phase]
    exact member

/-- The copied range becomes the caller's buffer. -/
theorem own (inv : WriteInv scene world) {offset bytes : Nat} {leases : List HeldLease}
    {copied : List UInt8} (phase : world.phase context = .copying offset bytes leases copied) :
    WriteInv scene (world.setPhase context (.owned ⟨leases, offset, copied, copied⟩)) := by
  have nodup := (inv.phases context).nodup
  rw [phase] at nodup
  refine inv.forget nodup ?_ ?_ rfl ?_ ?_ ?_ <;>
    simp [phase, WritePhase.ids, WritePhase.pendingId, WritePhase.held, WritePhase.snapshot,
      WritePhase.StoresAt]

/-! ## Releasing without modification -/

/-- A context gives up its first remaining lease while the services act on that lease. -/
theorem dropFirst (inv : WriteInv scene world) (phase : WritePhase) {entry : HeldLease}
    {rest : List HeldLease} (before : (world.phase context).held = entry :: rest)
    (after : phase.held = rest) (pending : phase.pendingId = none)
    (established : phase.Established scene world.tokens.issued (scene.contextHost context))
    (snapshot : ∀ copy, phase.snapshot = some copy → (world.phase context).snapshot = some copy)
    (quiet : ∀ block, ¬(world.phase context).StoresAt block)
    (still : ∀ block, ¬phase.StoresAt block)
    {op : TokenOp cluster} {status : Status} {tokens : TokenConfig cluster}
    (performed : world.tokens.step op = some (status, tokens))
    (unmodified : ∀ host requestId, op ≠ .release host requestId true)
    (uncollected : ∀ host requestId, op ≠ .wait host requestId)
    (presents : ∀ key, world.tokens.Presents key op → key = entry.lease.key) :
    WriteInv scene ((world.setPhase context phase).withTokens tokens) := by
  have ids : phase.ids = rest.map HeldLease.requestId := by
    simp [WritePhase.ids, pending, after]
  have distinct := (List.nodup_append.mp (inv.phases context).nodup).2.1
  rw [before] at distinct
  obtain ⟨fresh, nodup⟩ := List.nodup_cons.mp distinct
  have mine : entry ∈ (world.phase context).held := by
    rw [before]
    exact List.mem_cons_self
  have kept : ∀ other ∈ phase.held, other ∈ (world.phase context).held := by
    intro other member
    rw [after] at member
    rw [before]
    exact List.mem_cons_of_mem _ member
  have dropped := inv.forget (ids ▸ nodup) (fun requestId member => ?_) kept established snapshot
    quiet still
  · refine dropped.serve performed unmodified fun other held member => ⟨uncollected _ _, ?_⟩
    intro presented
    have same := presents _ presented
    rw [setPhase_phase] at member
    split at member
    · refine inv.exclusive_self (kept held member) mine (fun reused => fresh ?_) same
      rw [after] at member
      exact List.mem_map.mpr ⟨held, member, reused⟩
    · rename_i elsewhere
      exact inv.exclusive elsewhere member mine same
  · rw [ids] at member
    refine List.mem_append_right _ ?_
    rw [before]
    exact List.mem_cons_of_mem _ member

theorem presents_release {host : cluster.Host} {requestId : Nat} {modified : Bool}
    {lease : TokenLease} (leased : world.tokens.leased host requestId = some lease) {key : BlockKey}
    (presented : world.tokens.Presents key (.release host requestId modified)) :
    key = lease.key := by
  obtain ⟨other, found, rfl⟩ := presented
  rw [leased] at found
  rw [Option.some.inj found]

/-- A context releases its first remaining lease without modification. -/
theorem releaseFirst (inv : WriteInv scene world) (phase : WritePhase) {entry : HeldLease}
    {rest : List HeldLease} (before : (world.phase context).held = entry :: rest)
    (after : phase.held = rest) (pending : phase.pendingId = none)
    (established : phase.Established scene world.tokens.issued (scene.contextHost context))
    (snapshot : ∀ copy, phase.snapshot = some copy → (world.phase context).snapshot = some copy)
    (quiet : ∀ block, ¬(world.phase context).StoresAt block)
    (still : ∀ block, ¬phase.StoresAt block)
    {status : Status} {tokens : TokenConfig cluster}
    (performed : world.tokens.step
      (.release (scene.contextHost context) entry.requestId false) = some (status, tokens)) :
    WriteInv scene ((world.setPhase context phase).withTokens tokens) := by
  have leased := (inv.phases context).leases entry (by rw [before]; exact List.mem_cons_self)
  exact inv.dropFirst phase before after pending established snapshot quiet still performed
    (by simp) (by simp) (fun key => presents_release leased.1)

/-- The record of an abort may be added when it follows the releases so far. -/
theorem recordAbort (inv : WriteInv scene world) {record : AbortRecord}
    (position : record.position = (world.commits record.block).length)
    (follows : record.Follows scene.geometry (scene.leftBy (world.commits record.block))) :
    WriteInv scene { world with aborts := world.aborts ++ [record] } where
  named := inv.named
  phases context := (inv.phases context).congr
    (fun entry member => ((inv.phases context).leases entry member).1) (fun _ _ found => found)
    (fun _ _ => rfl) (fun _ _ => rfl) (fun _ _ _ _ => rfl)
  apart := inv.apart
  resting := inv.resting
  version := inv.version
  follows := inv.follows
  aborted other member := by
    rcases List.mem_append.mp member with old | new
    · exact inv.aborted other old
    · rw [List.mem_singleton.mp new, position, List.take_length]
      exact ⟨Nat.le_refl _, follows⟩

theorem aborting (inv : WriteInv scene world) {buffer : WriteBuffer} {entry : HeldLease}
    {rest : List HeldLease} (phase : world.phase context = .aborting buffer (entry :: rest))
    {status : Status} {tokens : TokenConfig cluster}
    (performed : world.tokens.step
      (.release (scene.contextHost context) entry.requestId false) = some (status, tokens)) :
    WriteInv scene
      { (world.withTokens tokens).setPhase context (.aborting buffer rest) with
        aborts := world.aborts ++ [world.abortRecord context buffer entry] } := by
  have released := inv.releaseFirst (.aborting buffer rest) (by rw [phase]; rfl) rfl rfl trivial
    (by simp [phase, WritePhase.snapshot]) (by simp [phase, WritePhase.StoresAt])
    (by simp [WritePhase.StoresAt]) performed
  refine released.recordAbort rfl ?_
  intro position inside low high
  have own := inv.phases context
  rw [phase] at own
  exact own.copied buffer.offset buffer.copied rfl entry List.mem_cons_self position inside low high

/-! ## Publishing -/

/-- A writeback that has begun has opened the epoch. -/
theorem odd_of_beginWriteback {tokens next : TokenConfig cluster} {host : cluster.Host}
    {lease : TokenLease} {status : Status}
    (performed : tokens.step (.beginWriteback host lease) = some (status, next))
    (ok : status.isOk = true) :
    (next.state.block lease.key).writebackEpoch % 2 = 1 := by
  obtain ⟨rfl, rfl⟩ := Prod.mk.inj (Option.some.inj performed)
  simp only [TokenConfig.withState, TokenState.beginWriteback] at ok ⊢
  split at ok
  · rename_i accepted
    rw [if_pos accepted]
    simp only [TokenState.activateWriter] at ok ⊢
    split at ok
    · rename_i even
      simp [even]
      omega
    · simp at ok
  · rename_i refused
    exact (refused ok).elim

theorem committing (inv : WriteInv scene world) {buffer : WriteBuffer} {entry : HeldLease}
    {rest : List HeldLease} (phase : world.phase context = .committing buffer (entry :: rest))
    {status : Status} {tokens : TokenConfig cluster}
    (performed : world.tokens.step
      (.beginWriteback (scene.contextHost context) entry.lease) = some (status, tokens)) :
    WriteInv scene ((world.withTokens tokens).setPhase context
      (if status.isOk then .storing buffer entry rest 0 else .unwinding (entry :: rest))) := by
  have own := inv.phases context
  rw [phase] at own
  have mine : entry ∈ (world.phase context).held := by
    rw [phase]
    exact List.mem_cons_self
  have quiet : ∀ block, ¬(world.phase context).StoresAt block := by
    simp [phase, WritePhase.StoresAt]
  have served := inv.dropFirst (.committing buffer rest) (by rw [phase]; rfl) rfl rfl
    own.established (by simp [phase, WritePhase.snapshot]) quiet (by simp [WritePhase.StoresAt])
    performed (by simp) (by simp) (fun key presented => presented.symm)
  have tables : tokens.leased = world.tokens.leased := by
    obtain ⟨-, rfl⟩ := Prod.mk.inj (Option.some.inj performed)
    rfl
  have leases : ∀ other ∈ entry :: rest,
      tokens.leased (scene.contextHost context) other.requestId = some other.lease ∧
        other.lease.key.object = scene.object := by
    rw [tables]
    exact own.leases
  have ids : ∀ requestId ∈ (entry :: rest).map HeldLease.requestId,
      ∀ other, other ≠ context → scene.contextHost other = scene.contextHost context →
        requestId ∉ ((world.setPhase context (.committing buffer rest)).phase other).ids := by
    intro requestId member other different host
    rw [setPhase_phase, if_neg different]
    refine inv.apart context other (Ne.symm different) host.symm requestId ?_
    rw [phase]
    exact member
  have twice : ∀ final, (world.withTokens tokens).setPhase context final =
      ((world.setPhase context (.committing buffer rest)).withTokens tokens).setPhase context
        final := by
    intro final
    simp [WriteWorld.setPhase, withTokens]
  rw [twice]
  cases ok : status.isOk with
  | false =>
      refine served.setPhase ⟨own.nodup, leases, trivial, by simp [WritePhase.snapshot], by simp⟩
        (fun requestId member => .inr (ids requestId member)) ?_
      simp [withTokens, setPhase_phase, WritePhase.StoresAt]
  | true =>
      refine served.setPhase ⟨own.nodup, leases, own.established, ?_, ?_⟩
        (fun requestId member => .inr (ids requestId member)) ?_
      · exact fun offset copied found other member => own.copied offset copied found other member
      · intro buffer' held rest' stored found
        obtain ⟨rfl, rfl, rfl, rfl⟩ : buffer = buffer' ∧ entry = held ∧ rest = rest' ∧
          0 = stored := by
          simpa using found
        refine ⟨odd_of_beginWriteback performed ok, Nat.zero_le _, fun position inside => ?_⟩
        rw [if_neg (by omega)]
        exact inv.byte_of_held mine quiet inside
      · simp [withTokens, setPhase_phase, WritePhase.StoresAt]

theorem blockOf_copy {geometry : ObjectGeometry} {buffer : WriteBuffer} {block position : Nat}
    (low : geometry.copyBegin buffer block ≤ position)
    (high : position < geometry.copyEnd buffer block) : geometry.blockOf position = block := by
  simp only [ObjectGeometry.copyBegin, ObjectGeometry.copyEnd,
    ObjectGeometry.blockStart] at low high
  refine Nat.div_eq_of_lt_le (by omega) ?_
  rw [Nat.succ_mul]
  omega

/-- A context stores the next byte of its buffer. -/
theorem store (inv : WriteInv scene world) {buffer : WriteBuffer} {entry : HeldLease}
    {rest : List HeldLease} {stored : Nat}
    (phase : world.phase context = .storing buffer entry rest stored)
    (more : scene.geometry.copyBegin buffer entry.block + stored <
      scene.geometry.copyEnd buffer entry.block) :
    WriteInv scene
      ({ world with
        bytes := Function.update world.bytes
          (scene.geometry.copyBegin buffer entry.block + stored)
          (buffer.storage.getD
            (scene.geometry.copyBegin buffer entry.block + stored - buffer.offset) 0) }.setPhase
        context (.storing buffer entry rest (stored + 1))) := by
  have own := inv.phases context
  rw [phase] at own
  have storing := own.stores buffer entry rest stored rfl
  have mine : entry ∈ (world.phase context).held := by
    rw [phase]
    exact List.mem_cons_self
  have here : scene.geometry.blockOf (scene.geometry.copyBegin buffer entry.block + stored) =
      entry.block := blockOf_copy (Nat.le_add_right _ _) more
  refine ⟨inv.named, fun other => ?_, ?_, ?_, inv.version, inv.follows, inv.aborted⟩
  · rw [setPhase_phase]
    split
    · rename_i same
      subst same
      refine ⟨own.nodup, own.leases, own.established, own.copied, ?_⟩
      intro buffer' held rest' stored' found
      obtain ⟨rfl, rfl, rfl, rfl⟩ : buffer = buffer' ∧ entry = held ∧ rest = rest' ∧
          stored + 1 = stored' := by
        simpa using found
      refine ⟨storing.odd, by omega, fun position inside => ?_⟩
      change Function.update world.bytes _ _ position = _
      by_cases last : position = scene.geometry.copyBegin buffer entry.block + stored
      · subst last
        rw [Function.update_self, if_pos (by omega)]
      · rw [Function.update_of_ne last, storing.bytes position inside]
        congr 1
        exact propext ⟨fun range => by omega, fun range => by omega⟩
    · rename_i elsewhere
      refine (inv.phases other).congr
        (fun held member => ((inv.phases other).leases held member).1) (fun _ _ found => found)
        (fun _ _ => rfl) (fun _ _ => rfl) ?_
      intro held member position inside
      have apart := inv.block_ne member mine (inv.exclusive elsewhere member mine)
      refine Function.update_of_ne ?_ _ _
      rintro rfl
      exact apart (inside.symm.trans here)
  · refine inv.apart_setPhase fun requestId member => .inl ?_
    rw [phase]
    exact member
  · intro position nobody
    have away : scene.geometry.blockOf position ≠ entry.block := by
      intro inside
      have idle := nobody context
      rw [setPhase_phase, if_pos rfl] at idle
      exact idle inside.symm
    have other : position ≠ scene.geometry.copyBegin buffer entry.block + stored := by
      rintro rfl
      exact away here
    change Function.update world.bytes _ _ position = _
    rw [Function.update_of_ne other]
    refine inv.resting position fun context' stores => ?_
    by_cases same : context' = context
    · rw [same, phase] at stores
      exact away stores.symm
    · have idle := nobody context'
      rw [setPhase_phase, if_neg same] at idle
      exact idle stores

/-- A complete writeback leaves the buffer's part of the block replaced. -/
theorem complete {buffer : WriteBuffer} {entry : HeldLease} {stored : Nat}
    (storing : StoringInv scene world buffer entry stored)
    (full : scene.geometry.copyEnd buffer entry.block ≤
      scene.geometry.copyBegin buffer entry.block + stored)
    (fits : buffer.offset + buffer.storage.length ≤ scene.geometry.bytes) {position : Nat}
    (inside : scene.geometry.blockOf position = entry.block) :
    world.bytes position =
      if buffer.offset ≤ position ∧ position < buffer.offset + buffer.storage.length then
        buffer.storage.getD (position - buffer.offset) 0
      else scene.leftBy (world.commits entry.block) position := by
  have low : scene.geometry.blockStart entry.block ≤ position := by
    rw [← inside]
    exact Nat.div_mul_le_self position _
  have high : position <
      scene.geometry.blockStart entry.block + scene.geometry.coherenceBlockBytes := by
    rw [← inside]
    exact Nat.lt_div_mul_add scene.geometry.coherenceBlockBytes_pos
  have bounded := storing.bounded
  rw [storing.bytes position inside]
  congr 1
  simp only [ObjectGeometry.copyBegin, ObjectGeometry.copyEnd] at full bounded ⊢
  exact propext ⟨fun range => by omega, fun range => by omega⟩

/-- A release that follows those before may be appended. -/
theorem follows_append {geometry : ObjectGeometry} {block : Nat} {records : List CommitRecord}
    {record : CommitRecord}
    (follows : ∀ index (earlier : CommitRecord), records[index]? = some earlier →
      earlier.Follows geometry block (scene.leftBy (records.take index)))
    (last : record.Follows geometry block (scene.leftBy records)) (index : Nat)
    (found : CommitRecord) (member : (records ++ [record])[index]? = some found) :
    found.Follows geometry block (scene.leftBy ((records ++ [record]).take index)) := by
  rcases Nat.lt_or_ge index records.length with old | new
  · rw [List.getElem?_append_left old] at member
    rw [List.take_append_of_le_length old.le]
    exact follows index found member
  · obtain rfl : index = records.length := by
      have bound := (List.getElem?_eq_some_iff.mp member).1
      simp only [List.length_append, List.length_cons, List.length_nil] at bound
      omega
    obtain rfl : record = found := by simpa using member
    rw [List.take_left]
    exact last

section Publish

variable {buffer : WriteBuffer} {entry : HeldLease} {rest : List HeldLease} {stored : Nat}
  {status : Status} {tokens : TokenConfig cluster}

/-- The record of a complete writeback follows the releases before. -/
theorem commitRecord_follows (inv : WriteInv scene world)
    (phase : world.phase context = .storing buffer entry rest stored)
    (full : scene.geometry.copyEnd buffer entry.block ≤
      scene.geometry.copyBegin buffer entry.block + stored) (status : Status) :
    (world.commitRecord context buffer status).Follows scene.geometry entry.block
      (scene.leftBy (world.commits entry.block)) := by
  have own := inv.phases context
  rw [phase] at own
  obtain ⟨sized, fits⟩ := own.established
  refine ⟨sized, fun position inside low high => ?_, fun position inside => ?_⟩
  · exact own.copied buffer.offset buffer.copied rfl entry List.mem_cons_self position inside low
      high
  · exact complete (own.stores buffer entry rest stored rfl) full fits inside

/-- A modified release keeps every other lease and its sidecar. -/
theorem publish_keeps (inv : WriteInv scene world)
    (phase : world.phase context = .storing buffer entry rest stored)
    (performed : world.tokens.step
      (.release (scene.contextHost context) entry.requestId true) = some (status, tokens))
    {other : Nat} {held : HeldLease} (member : held ∈ (world.phase other).held)
    (apart : held.lease.key ≠ entry.lease.key) :
    tokens.leased (scene.contextHost other) held.requestId = some held.lease ∧
      tokens.state.block held.lease.key = world.tokens.state.block held.lease.key := by
  have own := inv.phases context
  rw [phase] at own
  refine TokenConfig.step_keeps inv.named performed ((inv.phases other).leases held member).1
    (by simp) fun presented => ?_
  exact apart (presents_release (own.leases entry List.mem_cons_self).1 presented)

/-- A modified release counts one version of its block. -/
theorem publish_version (inv : WriteInv scene world)
    (phase : world.phase context = .storing buffer entry rest stored)
    (performed : world.tokens.step
      (.release (scene.contextHost context) entry.requestId true) = some (status, tokens))
    (block : Nat) :
    (tokens.state.block ⟨scene.object, block⟩).version =
      (world.commits block).length + if block = entry.block then 1 else 0 := by
  have own := inv.phases context
  rw [phase] at own
  have odd := (own.stores buffer entry rest stored rfl).odd
  obtain ⟨leased, object⟩ := own.leases entry List.mem_cons_self
  cases TokenConfig.step_effect performed with
  | released host requestId modified lease found =>
      obtain rfl := Option.some.inj (leased.symm.trans found)
      dsimp only
      rw [TokenConfig.release_version inv.named leased (fun _ => odd), inv.version]
      have same : (⟨scene.object, block⟩ : BlockKey) = entry.lease.key ↔ block = entry.block := by
        rw [← object]
        exact ⟨fun equal => congrArg BlockKey.blockIndex equal, fun equal => by rw [equal]; rfl⟩
      simp [same]

/-- A context releases a block that it has stored and goes on without it. -/
theorem publishAs (inv : WriteInv scene world)
    (phase : world.phase context = .storing buffer entry rest stored)
    (full : scene.geometry.copyEnd buffer entry.block ≤
      scene.geometry.copyBegin buffer entry.block + stored)
    (performed : world.tokens.step
      (.release (scene.contextHost context) entry.requestId true) = some (status, tokens))
    (final : WritePhase) (finalHeld : final.held = rest) (finalPending : final.pendingId = none)
    (established : final.Established scene tokens.issued (scene.contextHost context))
    (snapshot : ∀ copy, final.snapshot = some copy → copy = (buffer.offset, buffer.copied))
    (still : ∀ block, ¬final.StoresAt block) :
    WriteInv scene
      (((world.withTokens tokens).commit entry.block
        (world.commitRecord context buffer status)).setPhase context final) := by
  have own := inv.phases context
  rw [phase] at own
  obtain ⟨fresh, nodup⟩ := List.nodup_cons.mp own.nodup
  have mine : entry ∈ (world.phase context).held := by
    rw [phase]
    exact List.mem_cons_self
  have kept : ∀ held ∈ final.held, held ∈ (world.phase context).held ∧
      held.lease.key ≠ entry.lease.key := by
    intro held member
    rw [finalHeld] at member
    have old : held ∈ (world.phase context).held := by
      rw [phase]
      exact List.mem_cons_of_mem _ member
    refine ⟨old, inv.exclusive_self old mine fun same => fresh ?_⟩
    exact List.mem_map.mpr ⟨held, member, same⟩
  have here : (((world.withTokens tokens).commit entry.block
      (world.commitRecord context buffer status)).setPhase context final).commits entry.block =
        world.commits entry.block ++ [world.commitRecord context buffer status] :=
    Function.update_self _ _ _
  have elsewhere : ∀ block, block ≠ entry.block →
      (((world.withTokens tokens).commit entry.block
        (world.commitRecord context buffer status)).setPhase context final).commits block =
          world.commits block :=
    fun block different => Function.update_of_ne different _ _
  have ids : final.ids = rest.map HeldLease.requestId := by
    simp [WritePhase.ids, finalPending, finalHeld]
  refine ⟨TokenConfig.step_named inv.named performed, fun other => ?_, ?_, ?_, ?_, ?_, ?_⟩
  · rw [setPhase_phase]
    split
    · rename_i same
      subst same
      refine ⟨ids ▸ nodup, fun held member => ?_, established, ?_, ?_⟩
      · obtain ⟨old, apart⟩ := kept held member
        exact ⟨(inv.publish_keeps phase performed old apart).1,
          ((inv.phases other).leases held old).2⟩
      · intro offset copied found held member position inside low high
        obtain ⟨rfl, rfl⟩ := Prod.mk.inj (snapshot _ found)
        obtain ⟨old, apart⟩ := kept held member
        rw [elsewhere held.block (inv.block_ne old mine apart)]
        rw [finalHeld] at member
        exact own.copied buffer.offset buffer.copied rfl held (List.mem_cons_of_mem _ member)
          position inside low high
      · intro buffer' held rest' stored' found
        subst found
        exact (still held.block rfl).elim
    · rename_i different
      have apart : ∀ held ∈ (world.phase other).held, held.lease.key ≠ entry.lease.key :=
        fun held member => inv.exclusive different member mine
      refine (inv.phases other).congr ?_ ?_ ?_ ?_ (fun _ _ _ _ => rfl)
      · exact fun held member => (inv.publish_keeps phase performed member (apart held member)).1
      · exact fun _ _ found => TokenConfig.step_issued inv.named performed found
      · exact fun held member => (inv.publish_keeps phase performed member (apart held member)).2
      · exact fun held member => elsewhere held.block
          (inv.block_ne member mine (apart held member))
  · refine inv.apart_setPhase fun requestId member => .inl ?_
    rw [phase]
    rw [ids] at member
    exact List.mem_cons_of_mem _ member
  · intro position nobody
    by_cases inside : scene.geometry.blockOf position = entry.block
    · rw [inside, here, WriteScene.leftBy_append]
      rfl
    · rw [elsewhere _ inside]
      refine inv.resting position fun other stores => ?_
      by_cases same : other = context
      · rw [same, phase] at stores
        exact inside stores.symm
      · have idle := nobody other
        rw [setPhase_phase, if_neg same] at idle
        exact idle stores
  · intro block
    refine (inv.publish_version phase performed block).trans ?_
    by_cases same : block = entry.block
    · subst same
      simp [here]
    · rw [elsewhere block same, if_neg same, Nat.add_zero]
  · intro block index record found
    by_cases same : block = entry.block
    · subst same
      rw [here] at found ⊢
      exact follows_append (inv.follows entry.block) (inv.commitRecord_follows phase full status)
        index record found
    · rw [elsewhere block same] at found ⊢
      exact inv.follows block index record found
  · intro record member
    obtain ⟨bound, follows⟩ := inv.aborted record member
    by_cases same : record.block = entry.block
    · rw [same] at bound follows ⊢
      rw [here, List.take_append_of_le_length bound]
      refine ⟨?_, follows⟩
      rw [List.length_append]
      omega
    · rw [elsewhere record.block same]
      exact ⟨bound, follows⟩

theorem publish (inv : WriteInv scene world)
    (phase : world.phase context = .storing buffer entry rest stored)
    (full : scene.geometry.copyEnd buffer entry.block ≤
      scene.geometry.copyBegin buffer entry.block + stored)
    (performed : world.tokens.step
      (.release (scene.contextHost context) entry.requestId true) = some (status, tokens)) :
    WriteInv scene
      (((world.withTokens tokens).commit entry.block
        (world.commitRecord context buffer status)).setPhase context
        (if status.isOk then .committing buffer rest else .unwinding rest)) := by
  have own := inv.phases context
  rw [phase] at own
  split
  · exact inv.publishAs phase full performed (.committing buffer rest) rfl rfl own.established
      (by simp [WritePhase.snapshot]) (by simp [WritePhase.StoresAt])
  · exact inv.publishAs phase full performed (.unwinding rest) rfl rfl trivial
      (by simp [WritePhase.snapshot]) (by simp [WritePhase.StoresAt])

end Publish

/-! ## Runs -/

/-- A context that has nothing left becomes idle. -/
theorem finish (inv : WriteInv scene world)
    (quiet : ∀ block, ¬(world.phase context).StoresAt block) :
    WriteInv scene (world.setPhase context .idle) :=
  inv.forget (by simp [WritePhase.ids, WritePhase.pendingId, WritePhase.held])
    (by simp [WritePhase.ids, WritePhase.pendingId, WritePhase.held]) (by simp [WritePhase.held])
    trivial (by simp [WritePhase.snapshot]) quiet (by simp [WritePhase.StoresAt])

/-- Every action of a running call keeps the invariant. -/
theorem advance (inv : WriteInv scene world)
    (performed : WriteWorld.advance scene world context = some next) : WriteInv scene next := by
  cases phase : world.phase context with
  | idle | owned => simp [WriteWorld.advance, phase] at performed
  | requesting offset bytes block leases =>
      simp only [WriteWorld.advance, phase] at performed
      obtain ⟨status, tokens, stepped, rfl⟩ := call_some performed
      exact inv.requesting phase stepped
  | waiting offset bytes block requestId leases =>
      simp only [WriteWorld.advance, phase] at performed
      obtain ⟨status, tokens, stepped, rfl⟩ := call_some performed
      exact inv.waiting phase stepped
  | cancelling requestId leases =>
      simp only [WriteWorld.advance, phase] at performed
      obtain ⟨status, tokens, stepped, rfl⟩ := call_some performed
      exact inv.cancelling phase stepped
  | awaitingCancel requestId leases =>
      simp only [WriteWorld.advance, phase] at performed
      obtain ⟨status, tokens, stepped, rfl⟩ := call_some performed
      have served := inv.serve_quiet stepped (by simp) (by simp) (fun _ => id)
      have same : (world.withTokens tokens).phase context = .awaitingCancel requestId leases :=
        phase
      exact served.unwind (by rw [same]; rfl) (by simp [same, WritePhase.StoresAt])
  | unwinding leases =>
      cases leases with
      | nil =>
          simp only [WriteWorld.advance, phase, Option.some.injEq] at performed
          subst performed
          exact inv.finish (by simp [phase, WritePhase.StoresAt])
      | cons entry rest =>
          simp only [WriteWorld.advance, phase] at performed
          obtain ⟨status, tokens, stepped, rfl⟩ := call_some performed
          exact inv.releaseFirst (.unwinding rest) (by rw [phase]; rfl) rfl rfl trivial
            (by simp [WritePhase.snapshot]) (by simp [phase, WritePhase.StoresAt])
            (by simp [WritePhase.StoresAt]) stepped
  | copying offset bytes leases copied =>
      simp only [WriteWorld.advance, phase] at performed
      split at performed
      · obtain rfl := Option.some.inj performed
        exact inv.copying phase
      · obtain rfl := Option.some.inj performed
        exact inv.own phase
  | committing buffer remaining =>
      cases remaining with
      | nil =>
          simp only [WriteWorld.advance, phase, Option.some.injEq] at performed
          subst performed
          exact inv.finish (by simp [phase, WritePhase.StoresAt])
      | cons entry rest =>
          simp only [WriteWorld.advance, phase] at performed
          obtain ⟨status, tokens, stepped, rfl⟩ := call_some performed
          exact inv.committing phase stepped
  | storing buffer entry rest stored =>
      simp only [WriteWorld.advance, phase] at performed
      split at performed
      · rename_i more
        obtain rfl := Option.some.inj performed
        exact inv.store phase more
      · rename_i full
        obtain ⟨⟨status, tokens⟩, stepped, rfl⟩ := Option.map_eq_some_iff.mp performed
        exact inv.publish phase (Nat.le_of_not_lt full) stepped
  | aborting buffer remaining =>
      cases remaining with
      | nil =>
          simp only [WriteWorld.advance, phase, Option.some.injEq] at performed
          subst performed
          exact inv.finish (by simp [phase, WritePhase.StoresAt])
      | cons entry rest =>
          simp only [WriteWorld.advance, phase] at performed
          obtain ⟨released, called, rfl⟩ := Option.map_eq_some_iff.mp performed
          obtain ⟨status, tokens, stepped, rfl⟩ := call_some called
          exact inv.aborting phase stepped

/-- Every action keeps the invariant. -/
theorem step (inv : WriteInv scene world) {op : WriteOp cluster}
    (performed : WriteWorld.step scene world op = some next) : WriteInv scene next := by
  cases op with
  | acquireWriteRange context offset bytes =>
      obtain ⟨⟨phase, -⟩, entered⟩ := Option.ite_none_right_eq_some.mp performed
      obtain rfl := Option.some.inj entered
      exact inv.forget (by simp [WritePhase.ids, WritePhase.pendingId, WritePhase.held])
        (by simp [WritePhase.ids, WritePhase.pendingId, WritePhase.held])
        (by simp [WritePhase.held]) trivial (by simp [WritePhase.snapshot])
        (by simp [phase, WritePhase.StoresAt]) (by simp [WritePhase.StoresAt])
  | advance context => exact inv.advance performed
  | failData context =>
      simp only [WriteWorld.step] at performed
      split at performed
      · rename_i phase
        obtain rfl := Option.some.inj performed
        exact inv.unwind (by rw [phase]; rfl) (by simp [phase, WritePhase.StoresAt])
      · cases performed
  | modify context index value =>
      simp only [WriteWorld.step] at performed
      split at performed
      · rename_i buffer phase
        obtain rfl := Option.some.inj performed
        have own := inv.phases context
        rw [phase] at own
        refine inv.forget own.nodup ?_ ?_ ?_ ?_ (by simp [phase, WritePhase.StoresAt])
          (by simp [WritePhase.StoresAt])
        · simp [phase, WritePhase.ids, WritePhase.pendingId, WritePhase.held]
        · simp [phase, WritePhase.held]
        · exact (List.length_set).trans own.established
        · simp [phase, WritePhase.snapshot]
      · cases performed
  | releaseWriteBuffer context =>
      simp only [WriteWorld.step] at performed
      split at performed
      · rename_i buffer phase
        obtain ⟨⟨low, high⟩, entered⟩ := Option.ite_none_right_eq_some.mp performed
        obtain rfl := Option.some.inj entered
        have own := inv.phases context
        rw [phase] at own
        refine inv.forget own.nodup ?_ ?_ ⟨own.established, by omega⟩ ?_
          (by simp [phase, WritePhase.StoresAt]) (by simp [WritePhase.StoresAt])
        · simp [phase, WritePhase.ids, WritePhase.pendingId, WritePhase.held]
        · simp [phase, WritePhase.held]
        · simp [phase, WritePhase.snapshot]
      · cases performed
  | abortWriteBuffer context =>
      simp only [WriteWorld.step] at performed
      split at performed
      · rename_i buffer phase
        obtain rfl := Option.some.inj performed
        have own := inv.phases context
        rw [phase] at own
        refine inv.forget ?_ ?_ ?_ trivial ?_ (by simp [phase, WritePhase.StoresAt])
          (by simp [WritePhase.StoresAt])
        · change (buffer.leases.reverse.map HeldLease.requestId).Nodup
          rw [List.map_reverse, List.nodup_reverse]
          exact own.nodup
        · simp [phase, WritePhase.ids, WritePhase.pendingId, WritePhase.held]
        · simp [phase, WritePhase.held]
        · simp [phase, WritePhase.snapshot]
      · cases performed
  | progress host | publish source destination | deliver source destination =>
      simp only [WriteWorld.step, Option.map_eq_some_iff] at performed
      obtain ⟨⟨status, tokens⟩, stepped, rfl⟩ := performed
      exact inv.serve_quiet stepped (by simp) (by simp) (fun _ => id)

/-- A running call always has a next action. -/
theorem advance_enabled (inv : WriteInv scene world) (running : world.phase context ≠ .idle)
    (called : ∀ buffer, world.phase context ≠ .owned buffer) :
    (WriteWorld.advance scene world context).isSome := by
  have own := inv.phases context
  cases phase : world.phase context with
  | idle => exact (running phase).elim
  | owned buffer => exact (called buffer phase).elim
  | requesting offset bytes block leases =>
      simp only [WriteWorld.advance, phase, call, TokenConfig.step, Option.isSome_map]
      split <;> rfl
  | waiting offset bytes block requestId leases =>
      rw [phase] at own
      have asked : world.tokens.issued _ _ = _ := own.established
      simp [WriteWorld.advance, phase, call, TokenConfig.step, asked]
  | cancelling requestId leases | awaitingCancel requestId leases =>
      rw [phase] at own
      obtain ⟨key, asked⟩ := Option.isSome_iff_exists.mp own.established
      simp [WriteWorld.advance, phase, call, TokenConfig.step, asked]
  | copying offset bytes leases copied =>
      simp only [WriteWorld.advance, phase]
      split <;> rfl
  | unwinding remaining | aborting buffer remaining =>
      rw [phase] at own
      cases remaining with
      | nil => simp [WriteWorld.advance, phase]
      | cons entry rest =>
          have leased := (own.leases entry List.mem_cons_self).1
          simp [WriteWorld.advance, phase, call, TokenConfig.step, leased]
  | committing buffer remaining =>
      cases remaining with
      | nil => simp [WriteWorld.advance, phase]
      | cons entry rest => simp [WriteWorld.advance, phase, call, TokenConfig.step]
  | storing buffer entry rest stored =>
      rw [phase] at own
      have leased := (own.leases entry List.mem_cons_self).1
      simp only [WriteWorld.advance, phase]
      split
      · rfl
      · simp [TokenConfig.step, leased]

theorem initial (scene : WriteScene cluster) : WriteInv scene (WriteWorld.initial scene) where
  named := TokenConfig.initial_named cluster _
  phases context :=
    { nodup := List.nodup_nil
      leases := by simp [WriteWorld.initial, WritePhase.held]
      established := trivial
      copied := by simp [WriteWorld.initial, WritePhase.snapshot]
      stores := by simp [WriteWorld.initial] }
  apart := by
    simp [WriteWorld.initial, WritePhase.ids, WritePhase.pendingId, WritePhase.held]
  resting position _ := rfl
  version block := rfl
  follows := by simp [WriteWorld.initial]
  aborted := by simp [WriteWorld.initial]

end WriteInv

/-- A modified release happens only where the queue of its block is answerable. -/
def answered (scene : WriteScene cluster) (world : WriteWorld cluster) : WriteOp cluster → Bool
  | .advance context =>
      let host := scene.contextHost context
      match world.phase context with
      | .storing buffer held _ stored =>
          !decide (Releases scene buffer held stored) ||
            TokenState.Answerable host
              (world.tokens.state.localObject host held.lease.key).pending
              (world.tokens.state.waiter host)
      | _ => true
  | .acquireWriteRange _ _ _ | .failData _ | .modify _ _ _ | .releaseWriteBuffer _
  | .abortWriteBuffer _ | .progress _ | .publish _ _ | .deliver _ _ => true

/-- What an action does to the record of modified releases. -/
theorem step_commits {op : WriteOp cluster} (performed : step scene world op = some next) :
    next.commits = world.commits ∨
      ∃ context buffer held rest stored status tokens, op = .advance context ∧
        world.phase context = .storing buffer held rest stored ∧
        Releases scene buffer held stored ∧
        world.tokens.step (.release (scene.contextHost context) held.requestId true) =
          some (status, tokens) ∧
        next.commits = Function.update world.commits held.block
          (world.commits held.block ++ [world.commitRecord context buffer status]) := by
  cases op with
  | acquireWriteRange context offset bytes =>
      obtain ⟨-, entered⟩ := Option.ite_none_right_eq_some.mp performed
      obtain rfl := Option.some.inj entered
      exact .inl rfl
  | failData | modify | abortWriteBuffer =>
      simp only [step] at performed
      split at performed
      · obtain rfl := Option.some.inj performed
        exact .inl rfl
      · cases performed
  | releaseWriteBuffer context =>
      simp only [step] at performed
      split at performed
      · obtain ⟨-, entered⟩ := Option.ite_none_right_eq_some.mp performed
        obtain rfl := Option.some.inj entered
        exact .inl rfl
      · cases performed
  | progress | publish | deliver =>
      simp only [step, Option.map_eq_some_iff] at performed
      obtain ⟨-, -, rfl⟩ := performed
      exact .inl rfl
  | advance context =>
      cases phase : world.phase context with
      | idle | owned => simp [step, advance, phase] at performed
      | requesting | waiting | cancelling | awaitingCancel =>
          simp only [step, advance, phase] at performed
          obtain ⟨status, tokens, -, rfl⟩ := call_some performed
          exact .inl rfl
      | copying offset bytes leases copied =>
          simp only [step, advance, phase] at performed
          split at performed <;> obtain rfl := Option.some.inj performed <;> exact .inl rfl
      | unwinding remaining | committing buffer remaining =>
          cases remaining with
          | nil =>
              simp only [step, advance, phase] at performed
              obtain rfl := Option.some.inj performed
              exact .inl rfl
          | cons entry rest =>
              simp only [step, advance, phase] at performed
              obtain ⟨status, tokens, -, rfl⟩ := call_some performed
              exact .inl rfl
      | storing buffer held rest stored =>
          simp only [step, advance, phase] at performed
          split at performed
          · obtain rfl := Option.some.inj performed
            exact .inl rfl
          · rename_i full
            obtain ⟨⟨status, tokens⟩, stepped, rfl⟩ := Option.map_eq_some_iff.mp performed
            exact .inr ⟨context, buffer, held, rest, stored, status, tokens, rfl, phase,
              Nat.le_of_not_lt full, stepped, rfl⟩
      | aborting buffer remaining =>
          cases remaining with
          | nil =>
              simp only [step, advance, phase] at performed
              obtain rfl := Option.some.inj performed
              exact .inl rfl
          | cons entry rest =>
              simp only [step, advance, phase] at performed
              obtain ⟨released, called, rfl⟩ := Option.map_eq_some_iff.mp performed
              obtain ⟨status, tokens, -, rfl⟩ := call_some called
              exact .inl rfl

/-- A modified release whose queue is answerable reports success. -/
theorem WriteInv.release_isOk (inv : WriteInv scene world) {buffer : WriteBuffer}
    {held : HeldLease} {rest : List HeldLease} {stored : Nat}
    (phase : world.phase context = .storing buffer held rest stored) {status : Status}
    {tokens : TokenConfig cluster}
    (performed : world.tokens.step
      (.release (scene.contextHost context) held.requestId true) = some (status, tokens)) :
    status.isOk = TokenState.Answerable (scene.contextHost context)
      (world.tokens.state.localObject (scene.contextHost context) held.lease.key).pending
      (world.tokens.state.waiter (scene.contextHost context)) := by
  have own := inv.phases context
  rw [phase] at own
  have odd := (own.stores buffer held rest stored rfl).odd
  have leased := (own.leases held List.mem_cons_self).1
  cases TokenConfig.step_effect performed with
  | released host requestId modified lease found =>
      obtain rfl := Option.some.inj (leased.symm.trans found)
      exact TokenConfig.release_isOk inv.named leased fun _ => odd

/-- The invariant of the runs in which every modified release is answerable. -/
structure AnsweredInv (scene : WriteScene cluster) (world : WriteWorld cluster) : Prop where
  /-- The invariant of every run. -/
  write : WriteInv scene world
  /-- Every modified release reported success. -/
  succeeded : ∀ block, ∀ record ∈ world.commits block, record.status.isOk = true

theorem AnsweredInv.step (inv : AnsweredInv scene world) {op : WriteOp cluster}
    (admits : answered scene world op = true)
    (performed : WriteWorld.step scene world op = some next) : AnsweredInv scene next := by
  refine ⟨inv.write.step performed, fun block record member => ?_⟩
  rcases step_commits performed with
    same | ⟨context, buffer, held, rest, stored, status, tokens, rfl, phase, full, released,
      commits⟩
  · rw [same] at member
    exact inv.succeeded block record member
  · rw [commits] at member
    by_cases here : block = held.block
    · subst here
      rw [Function.update_self] at member
      rcases List.mem_append.mp member with old | new
      · exact inv.succeeded held.block record old
      · rw [List.mem_singleton.mp new]
        refine (inv.write.release_isOk phase released).trans ?_
        simpa [answered, phase, full] using admits
    · rw [Function.update_of_ne here] at member
      exact inv.succeeded block record member

theorem reaches_answered
    (execution : ReachesBy scene (fun world op => answered scene world op = true)
      (initial scene) world) : AnsweredInv scene world :=
  Run.ReachesBy.preserves execution (AnsweredInv scene)
    ⟨WriteInv.initial scene, by simp [initial]⟩
    fun _ _ _ inv admits performed => inv.step admits performed

/-- Where every modified release reported success, all of them are successful. -/
theorem AnsweredInv.successful_eq (inv : AnsweredInv scene world) :
    world.successful = world.commits := by
  funext block
  exact List.filter_eq_self.mpr (inv.succeeded block)

/-- An abort changes neither the bytes nor a version. -/
theorem WriteInv.abort_unchanged (inv : WriteInv scene world) {buffer : WriteBuffer}
    {remaining : List HeldLease} (phase : world.phase context = .aborting buffer remaining)
    (performed : WriteWorld.step scene world (.advance context) = some next) :
    next.bytes = world.bytes ∧
      ∀ key, (next.tokens.state.block key).version = (world.tokens.state.block key).version := by
  cases remaining with
  | nil =>
      simp only [WriteWorld.step, WriteWorld.advance, phase] at performed
      obtain rfl := Option.some.inj performed
      exact ⟨rfl, fun _ => rfl⟩
  | cons entry rest =>
      simp only [WriteWorld.step, WriteWorld.advance, phase] at performed
      obtain ⟨released, called, rfl⟩ := Option.map_eq_some_iff.mp performed
      obtain ⟨status, tokens, stepped, rfl⟩ := call_some called
      exact ⟨rfl, TokenConfig.step_version inv.named stepped (by simp)⟩

end WriteWorld

/-- A modified release added one to a byte. -/
structure CommitRecord.Increments (record : CommitRecord) (position : Nat) : Prop where
  /-- The byte is in the range. -/
  low : record.offset ≤ position
  /-- The byte is in the range. -/
  high : position < record.offset + record.copied.length
  /-- The written byte is the successor of the copied one. -/
  succ : ∀ old, record.copied[position - record.offset]? = some old →
    record.written.getD (position - record.offset) 0 = old + 1

theorem leftBy_increments {scene : WriteScene cluster} {geometry : ObjectGeometry} {block : Nat}
    {position : Nat} (inside : geometry.blockOf position = block) (records : List CommitRecord)
    (follows : ∀ index (record : CommitRecord), records[index]? = some record →
      record.Follows geometry block (scene.leftBy (records.take index)))
    (increments : ∀ record ∈ records, record.Increments position) :
    scene.leftBy records position = scene.content position + UInt8.ofNat records.length := by
  induction records using List.reverseRecOn with
  | nil => simp [WriteScene.leftBy]
  | append_singleton earlier record induction =>
      have before := induction
        (fun index found member => by
          have bound := (List.getElem?_eq_some_iff.mp member).1
          have old := follows index found (by rwa [List.getElem?_append_left bound])
          rwa [List.take_append_of_le_length bound.le] at old)
        (fun found member => increments found (List.mem_append_left _ member))
      have last := follows earlier.length record (by simp)
      rw [List.take_left] at last
      have added := increments record (by simp)
      have copied := last.copied position inside added.low added.high
      have range : record.offset ≤ position ∧ position < record.offset + record.written.length :=
        ⟨added.low, last.sized ▸ added.high⟩
      rw [WriteScene.leftBy_append, last.applied position inside, if_pos range,
        added.succ _ copied, before, List.length_append, List.length_singleton, UInt8.ofNat_add]
      exact UInt8.add_assoc _ _ _

namespace WriteWorld

/-- In every run whose modified releases are answerable, the version of a block counts the
successful commits of the block; each of them, and each abort, copied exactly what the one before
had left, and replaced exactly its own range; bytes that nobody is storing are those of the last
commit, so that increments are all counted; and aborts change neither bytes nor versions. -/
theorem no_lost_updates {scene : WriteScene cluster} {world : WriteWorld cluster}
    (execution : ReachesBy scene (fun world op => answered scene world op = true)
      (initial scene) world) :
    (∀ block, (world.tokens.state.block ⟨scene.object, block⟩).version =
      (world.successful block).length) ∧
    (∀ block index (record : CommitRecord), (world.successful block)[index]? = some record →
      record.Follows scene.geometry block (scene.leftBy ((world.successful block).take index))) ∧
    (∀ record : AbortRecord, record ∈ world.aborts →
      record.Follows scene.geometry
        (scene.leftBy ((world.successful record.block).take record.position))) ∧
    (∀ position, (∀ context, ¬(world.phase context).StoresAt (scene.geometry.blockOf position)) →
      world.bytes position =
        scene.leftBy (world.successful (scene.geometry.blockOf position)) position) ∧
    (∀ position, (∀ record ∈ world.successful (scene.geometry.blockOf position),
        CommitRecord.Increments record position) →
      scene.leftBy (world.successful (scene.geometry.blockOf position)) position =
        scene.content position +
          UInt8.ofNat (world.successful (scene.geometry.blockOf position)).length) ∧
    (∀ context buffer remaining next, world.phase context = .aborting buffer remaining →
      step scene world (.advance context) = some next →
      next.bytes = world.bytes ∧
        ∀ key, (next.tokens.state.block key).version =
          (world.tokens.state.block key).version) := by
  have inv := reaches_answered execution
  rw [inv.successful_eq]
  refine ⟨inv.write.version, inv.write.follows, fun record member => ?_, inv.write.resting, ?_, ?_⟩
  · exact (inv.write.aborted record member).2
  · intro position increments
    exact leftBy_increments rfl _ (inv.write.follows _) increments
  · intro context buffer remaining next phase performed
    exact inv.write.abort_unchanged phase performed

/-! ## Three contexts on three hosts -/

/-- A one-byte object of the first host; the first context runs on the third host, the others on
the second. -/
def oneByte : WriteScene TokenConfig.threeHosts where
  geometry := ⟨1, 64, by decide⟩
  object := TokenConfig.onlyBlock.object
  owner := TokenConfig.host0
  contextHost := fun context => if context = 0 then TokenConfig.host2 else TokenConfig.host1
  content := fun _ => 7

/-- Two contexts on different hosts increment the byte one after the other and a third one aborts in
between. -/
def incrementOps : List (WriteOp TokenConfig.threeHosts) :=
  [.acquireWriteRange 0 0 1, .advance 0,
    .deliver TokenConfig.host2 TokenConfig.host0, .deliver TokenConfig.host0 TokenConfig.host2,
    .acquireWriteRange 1 0 1, .advance 1, .acquireWriteRange 2 0 1, .advance 2,
    .deliver TokenConfig.host1 TokenConfig.host2, .deliver TokenConfig.host1 TokenConfig.host2,
    .advance 0, .advance 0, .advance 0, .modify 0 0 8, .releaseWriteBuffer 0,
    .advance 0, .advance 0, .advance 0, .advance 0,
    .deliver TokenConfig.host2 TokenConfig.host1, .deliver TokenConfig.host2 TokenConfig.host1,
    .advance 1, .advance 1, .advance 1, .abortWriteBuffer 1, .advance 1, .advance 1,
    .advance 2, .advance 2, .advance 2, .modify 2 0 9, .releaseWriteBuffer 2,
    .advance 2, .advance 2, .advance 2, .advance 2]

theorem no_lost_updates_increments :
    ∃ world, runOps oneByte (initial oneByte) incrementOps = some world ∧
      (world.tokens.state.block TokenConfig.onlyBlock).version = 2 ∧
      (world.successful 0).length = 2 ∧ world.aborts.length = 1 ∧ world.bytes 0 = 9 := by
  have holds : (runOps oneByte (initial oneByte) incrementOps).any (fun world =>
      (world.successful 0).length = 2 ∧ world.aborts.length = 1 ∧ world.bytes 0 = 9) = true := by
    decide +kernel
  have admits : Run.AdmitsLabels (step oneByte) (fun world op => answered oneByte world op = true)
      (initial oneByte) incrementOps := by
    decide +kernel
  obtain ⟨world, execution, found⟩ := (Option.any_eq_true _ _).mp holds
  obtain ⟨successful, aborts, byte⟩ := of_decide_eq_true found
  obtain ⟨version, -⟩ := no_lost_updates (Run.reachesBy_of_runLabels execution admits)
  exact ⟨world, execution, (version 0).trans successful, successful, aborts, byte⟩

/-- The second context of the second host gives its request up while the request is forwarded to
the third host; the first context of the second host then commits. -/
def overtakenOps : List (WriteOp TokenConfig.threeHosts) :=
  [.acquireWriteRange 0 0 1, .acquireWriteRange 1 0 1, .acquireWriteRange 2 0 1,
    .advance 0, .advance 1, .advance 2,
    .deliver TokenConfig.host2 TokenConfig.host0, .deliver TokenConfig.host1 TokenConfig.host0,
    .deliver TokenConfig.host1 TokenConfig.host0,
    .advance 2, .advance 2,
    .deliver TokenConfig.host1 TokenConfig.host2, .deliver TokenConfig.host2 TokenConfig.host1,
    .advance 2, .advance 2,
    .deliver TokenConfig.host0 TokenConfig.host2, .deliver TokenConfig.host0 TokenConfig.host2,
    .deliver TokenConfig.host0 TokenConfig.host2,
    .advance 0, .advance 0, .advance 0, .abortWriteBuffer 0, .advance 0, .advance 0,
    .deliver TokenConfig.host2 TokenConfig.host1, .deliver TokenConfig.host2 TokenConfig.host1,
    .advance 1, .advance 1, .advance 1, .modify 1 0 8, .releaseWriteBuffer 1,
    .advance 1, .advance 1, .advance 1]

/-- A commit that is published and counted, but reported as failed. -/
theorem commit_counted_as_failed :
    ∃ world, runOps oneByte (initial oneByte) overtakenOps = some world ∧
      world.bytes 0 = 8 ∧
      (world.commits 0).map CommitRecord.status =
        [.notFound "local token requester no longer exists"] ∧
      (world.tokens.state.block TokenConfig.onlyBlock).version ≠
        (world.successful 0).length := by
  have holds : (runOps oneByte (initial oneByte) overtakenOps).any (fun world =>
      world.bytes 0 = 8 ∧
        (world.commits 0).map CommitRecord.status =
          [.notFound "local token requester no longer exists"] ∧
        (world.tokens.state.block TokenConfig.onlyBlock).version ≠
          (world.successful 0).length) = true := by
    decide +kernel
  obtain ⟨world, execution, found⟩ := (Option.any_eq_true _ _).mp holds
  exact ⟨world, execution, of_decide_eq_true found⟩

end WriteWorld
end Cxloom.LoomMem
