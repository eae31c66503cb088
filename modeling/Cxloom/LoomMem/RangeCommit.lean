import Cxloom.LoomMem.ReadRange
import Cxloom.LoomMem.TokenPassive
import Cxloom.LoomMem.WriteBufferUpdates

/-!
# Committing a range

What one `AcquireWriteRange` and one successful `ReleaseWriteBuffer` do to the object while no other
context commits: they lease the blocks that the range meets, replace the bytes of the range and no
others, increment the versions of these blocks by one and leave every writeback epoch even.
-/

namespace Cxloom.LoomMem

variable {cluster : Cluster}

/-! ## Blocks of a range -/

namespace ObjectGeometry

def blocksOf (geometry : ObjectGeometry) (offset bytes : Nat) : List Nat :=
  List.range' (geometry.blockOf offset)
    (geometry.blockOf (offset + bytes - 1) + 1 - geometry.blockOf offset)

/-- A block and a range have a byte in common. -/
def Intersects (geometry : ObjectGeometry) (offset bytes block : Nat) : Prop :=
  ∃ position, offset ≤ position ∧ position < offset + bytes ∧ geometry.blockOf position = block

theorem blockOf_mono (geometry : ObjectGeometry) {first second : Nat} (ordered : first ≤ second) :
    geometry.blockOf first ≤ geometry.blockOf second :=
  Nat.div_le_div_right ordered

theorem mem_blocksOf {geometry : ObjectGeometry} {offset bytes block : Nat} (nonempty : 0 < bytes) :
    block ∈ geometry.blocksOf offset bytes ↔ geometry.Intersects offset bytes block := by
  have ordered := geometry.blockOf_mono (Nat.le_sub_one_of_lt (Nat.lt_add_of_pos_right nonempty) :
    offset ≤ offset + bytes - 1)
  rw [blocksOf, List.mem_range'_1]
  constructor
  · rintro ⟨low, high⟩
    have positive := geometry.coherenceBlockBytes_pos
    have reached := (Nat.le_div_iff_mul_le positive).mp
      (Nat.le_of_lt_succ (by rw [← blockOf]; omega) :
        block ≤ (offset + bytes - 1) / geometry.coherenceBlockBytes)
    refine ⟨max offset (block * geometry.coherenceBlockBytes), Nat.le_max_left _ _, by omega, ?_⟩
    rcases Nat.le_total offset (block * geometry.coherenceBlockBytes) with before | behind
    · rw [Nat.max_eq_right before, blockOf, Nat.mul_div_cancel _ positive]
    · rw [Nat.max_eq_left behind]
      exact Nat.le_antisymm low ((Nat.le_div_iff_mul_le positive).mpr behind)
  · rintro ⟨position, low, high, rfl⟩
    have above := geometry.blockOf_mono low
    have below := geometry.blockOf_mono (by omega : position ≤ offset + bytes - 1)
    omega

theorem pairwise_blocksOf (geometry : ObjectGeometry) (offset bytes : Nat) :
    (geometry.blocksOf offset bytes).Pairwise (· < ·) :=
  List.pairwise_lt_range'

end ObjectGeometry

namespace WritePhase

/-- A range that `AcquireWriteRange` accepts. -/
structure InObject (scene : WriteScene cluster) (offset bytes : Nat) : Prop where
  /-- The range is not empty. -/
  bytes_pos : 0 < bytes
  /-- It ends in the object. -/
  inside : offset + bytes ≤ scene.geometry.bytes

/-- A buffer has the leases of its range. -/
structure HasLeases (scene : WriteScene cluster) (buffer : WriteBuffer) : Prop where
  range : InObject scene buffer.offset buffer.copied.length
  leases : buffer.leases.map HeldLease.block =
    scene.geometry.blocksOf buffer.offset buffer.copied.length

/-- The leases obtained so far are those of the first blocks of the range. -/
structure Collects (scene : WriteScene cluster) (offset bytes block : Nat)
    (leases : List HeldLease) : Prop where
  range : InObject scene offset bytes
  /-- The loop stands inside the range. -/
  low : scene.geometry.blockOf offset ≤ block
  /-- The loop stands inside the range. -/
  high : block ≤ scene.geometry.blockOf (offset + bytes - 1)
  leases : leases.map HeldLease.block =
    List.range' (scene.geometry.blockOf offset) (block - scene.geometry.blockOf offset)

/-- What a call has established about its leases. -/
def Covers (scene : WriteScene cluster) : WritePhase → Prop
  | requesting offset bytes block leases | waiting offset bytes block _ leases =>
      Collects scene offset bytes block leases
  | copying offset bytes leases copied =>
      InObject scene offset bytes ∧ copied.length ≤ bytes ∧
        leases.map HeldLease.block = scene.geometry.blocksOf offset bytes
  | owned buffer | committing buffer _ | storing buffer _ _ _ | aborting buffer _ =>
      HasLeases scene buffer
  | idle | cancelling _ _ | awaitingCancel _ _ | unwinding _ => True

def range : WritePhase → Option (Nat × Nat)
  | requesting offset bytes _ _ | waiting offset bytes _ _ _ | copying offset bytes _ _ =>
      some (offset, bytes)
  | owned buffer | committing buffer _ | storing buffer _ _ _ | aborting buffer _ =>
      some (buffer.offset, buffer.copied.length)
  | idle | cancelling _ _ | awaitingCancel _ _ | unwinding _ => none

/-- `ReleaseWriteBuffer` is running and has not failed. -/
def Publishing : WritePhase → Prop
  | committing _ _ | storing _ _ _ _ => True
  | idle | requesting _ _ _ _ | waiting _ _ _ _ _ | cancelling _ _ | awaitingCancel _ _
  | unwinding _ | copying _ _ _ _ | owned _ | aborting _ _ => False

def storingKey : WritePhase → Option BlockKey
  | storing _ held _ _ => some held.lease.key
  | idle | requesting _ _ _ _ | waiting _ _ _ _ _ | cancelling _ _ | awaitingCancel _ _
  | unwinding _ | copying _ _ _ _ | owned _ | committing _ _ | aborting _ _ => none

theorem Collects.next {scene : WriteScene cluster} {offset bytes block : Nat}
    {leases : List HeldLease} (collects : Collects scene offset bytes block leases)
    (held : HeldLease) (own : held.block = block) :
    (leases ++ [held]).map HeldLease.block =
      List.range' (scene.geometry.blockOf offset) (block + 1 - scene.geometry.blockOf offset) := by
  have low := collects.low
  have count : block + 1 - scene.geometry.blockOf offset =
      block - scene.geometry.blockOf offset + 1 := by omega
  rw [count, List.range'_concat, List.map_append, collects.leases, List.map_singleton, own]
  congr 2
  omega

end WritePhase

namespace WriteWorld

variable {scene : WriteScene cluster} {world next : WriteWorld cluster} {op : WriteOp cluster}
  {context : Nat} {phase : WritePhase}

/-! ## Leases -/

/-- What an action does to the phase of a context. -/
structure Moved (scene : WriteScene cluster) (op : WriteOp cluster) (context : Nat)
    (phase phase' : WritePhase) : Prop where
  /-- The leases are those of the range. -/
  covers : phase'.Covers scene
  /-- The range changes when a call begins and when one ends. -/
  range : (∀ offset bytes, op ≠ .acquireWriteRange context offset bytes) →
    phase'.range = phase.range ∨ phase'.range = none
  /-- Only `ReleaseWriteBuffer` publishes. -/
  publishing : op ≠ .releaseWriteBuffer context → phase'.Publishing → phase.Publishing

theorem Moved.refl (covers : phase.Covers scene) : Moved scene op context phase phase :=
  ⟨covers, fun _ => .inl rfl, fun _ => id⟩

/-- A running call. -/
theorem advance_moved (inv : WriteInv scene world) (covers : (world.phase context).Covers scene)
    (performed : advance scene world context = some next) :
    Moved scene op context (world.phase context) (next.phase context) ∧
      ∀ other ≠ context, next.phase other = world.phase other := by
  have others : ∀ {reached : WriteWorld cluster} {phase' : WritePhase},
      reached.phase = world.phase → ∀ other ≠ context,
        (reached.setPhase context phase').phase other = world.phase other := by
    intro reached phase' same other different
    rw [setPhase_phase, if_neg different, same]
  have acted : ∀ {reached : WriteWorld cluster} {phase' : WritePhase},
      Moved scene op context (world.phase context) phase' →
        Moved scene op context (world.phase context)
          ((reached.setPhase context phase').phase context) := by
    intro reached phase' moved
    rwa [setPhase_phase, if_pos rfl]
  cases phase : world.phase context with
  | idle | owned buffer => simp [advance, phase] at performed
  | requesting offset bytes block leases =>
      rw [phase] at covers
      simp only [advance, phase] at performed
      obtain ⟨status, tokens, -, rfl⟩ := call_some performed
      refine ⟨phase ▸ acted ?_, others rfl⟩
      rw [phase]
      split
      · exact ⟨covers, fun _ => .inl rfl, fun _ => id⟩
      · exact ⟨trivial, fun _ => .inr rfl, fun _ => id⟩
  | waiting offset bytes block requestId leases =>
      have own := inv.phases context
      rw [phase] at own covers
      simp only [advance, phase] at performed
      obtain ⟨status, tokens, stepped, rfl⟩ := call_some performed
      refine ⟨phase ▸ acted ?_, others rfl⟩
      rw [phase]
      unfold afterWait
      split
      · rename_i lease _ found
        have named := TokenConfig.step_named inv.named stepped
        have key : lease.key = ⟨scene.object, block⟩ :=
          Option.some.inj ((named.leases _ _ _ found).symm.trans
            (TokenConfig.step_issued inv.named stepped own.established))
        have grown := covers.next ⟨requestId, lease⟩ (congrArg BlockKey.blockIndex key)
        have low := covers.low
        split
        · rename_i last
          refine ⟨⟨covers.range, Nat.zero_le _, ?_⟩, fun _ => .inl rfl, fun _ => id⟩
          rw [grown, last, ObjectGeometry.blocksOf]
        · rename_i more
          have high := covers.high
          exact ⟨⟨covers.range, by omega, by omega, grown⟩, fun _ => .inl rfl, fun _ => id⟩
      · exact ⟨trivial, fun _ => .inr rfl, fun _ => id⟩
  | cancelling requestId leases =>
      simp only [advance, phase] at performed
      obtain ⟨status, tokens, -, rfl⟩ := call_some performed
      refine ⟨phase ▸ acted ?_, others rfl⟩
      split <;> exact ⟨trivial, fun _ => .inr rfl, fun _ => False.elim⟩
  | awaitingCancel requestId leases =>
      simp only [advance, phase] at performed
      obtain ⟨status, tokens, -, rfl⟩ := call_some performed
      exact ⟨phase ▸ acted ⟨trivial, fun _ => .inr rfl, fun _ => False.elim⟩, others rfl⟩
  | unwinding leases =>
      cases leases with
      | nil =>
          simp only [advance, phase] at performed
          obtain rfl := Option.some.inj performed
          exact ⟨phase ▸ acted ⟨trivial, fun _ => .inr rfl, fun _ => False.elim⟩, others rfl⟩
      | cons entry rest =>
          simp only [advance, phase] at performed
          obtain ⟨status, tokens, -, rfl⟩ := call_some performed
          exact ⟨phase ▸ acted ⟨trivial, fun _ => .inr rfl, fun _ => False.elim⟩, others rfl⟩
  | copying offset bytes leases copied =>
      rw [phase] at covers
      obtain ⟨range, short, leased⟩ := covers
      simp only [advance, phase] at performed
      split at performed
      · rename_i more
        obtain rfl := Option.some.inj performed
        refine ⟨phase ▸ acted ⟨⟨range, ?_, leased⟩, fun _ => .inl (by rw [phase]; rfl),
          fun _ => False.elim⟩, others rfl⟩
        rw [List.length_append, List.length_singleton]
        exact more
      · rename_i full
        have whole : copied.length = bytes := by omega
        obtain rfl := Option.some.inj performed
        refine ⟨phase ▸ acted ⟨⟨?_, ?_⟩, fun _ => .inl ?_, fun _ => False.elim⟩, others rfl⟩
        · rw [whole]
          exact range
        · rw [whole]
          exact leased
        · rw [phase, ← whole]
          rfl
  | committing buffer remaining =>
      rw [phase] at covers
      cases remaining with
      | nil =>
          simp only [advance, phase] at performed
          obtain rfl := Option.some.inj performed
          exact ⟨phase ▸ acted ⟨trivial, fun _ => .inr rfl, fun _ => False.elim⟩, others rfl⟩
      | cons entry rest =>
          simp only [advance, phase] at performed
          obtain ⟨status, tokens, -, rfl⟩ := call_some performed
          refine ⟨phase ▸ acted ?_, others rfl⟩
          rw [phase]
          split
          · exact ⟨covers, fun _ => .inl rfl, fun _ _ => trivial⟩
          · exact ⟨trivial, fun _ => .inr rfl, fun _ => False.elim⟩
  | storing buffer entry rest stored =>
      rw [phase] at covers
      simp only [advance, phase] at performed
      split at performed
      · obtain rfl := Option.some.inj performed
        refine ⟨phase ▸ acted ?_, others rfl⟩
        rw [phase]
        exact ⟨covers, fun _ => .inl rfl, fun _ _ => trivial⟩
      · obtain ⟨⟨status, tokens⟩, -, rfl⟩ := Option.map_eq_some_iff.mp performed
        refine ⟨phase ▸ acted ?_, others rfl⟩
        rw [phase]
        split
        · exact ⟨covers, fun _ => .inl rfl, fun _ _ => trivial⟩
        · exact ⟨trivial, fun _ => .inr rfl, fun _ => False.elim⟩
  | aborting buffer remaining =>
      rw [phase] at covers
      cases remaining with
      | nil =>
          simp only [advance, phase] at performed
          obtain rfl := Option.some.inj performed
          exact ⟨phase ▸ acted ⟨trivial, fun _ => .inr rfl, fun _ => False.elim⟩, others rfl⟩
      | cons entry rest =>
          simp only [advance, phase] at performed
          obtain ⟨released, called, rfl⟩ := Option.map_eq_some_iff.mp performed
          obtain ⟨status, tokens, -, rfl⟩ := call_some called
          refine ⟨phase ▸ acted ?_, others rfl⟩
          rw [phase]
          exact ⟨covers, fun _ => .inl rfl, fun _ => False.elim⟩

/-- Every action. -/
theorem step_moved (inv : WriteInv scene world) (covers : ∀ other, (world.phase other).Covers scene)
    (performed : step scene world op = some next) :
    Moved scene op context (world.phase context) (next.phase context) := by
  have still : next.phase context = world.phase context →
      Moved scene op context (world.phase context) (next.phase context) := by
    intro same
    rw [same]
    exact .refl (covers context)
  -- an action of another context keeps the phase of this one
  have acted : ∀ {actor : Nat} {phase' : WritePhase},
      next = world.setPhase actor phase' →
      (actor = context → Moved scene op context (world.phase context) phase') →
      Moved scene op context (world.phase context) (next.phase context) := by
    intro actor phase' same acts
    rw [same, setPhase_phase]
    split
    · rename_i mine
      exact acts mine.symm
    · exact .refl (covers context)
  cases op with
  | acquireWriteRange actor offset bytes =>
      obtain ⟨⟨phase, nonempty, low, high⟩, entered⟩ :=
        Option.ite_none_right_eq_some.mp performed
      refine acted (Option.some.inj entered).symm fun mine => ?_
      subst mine
      have positive := Nat.pos_of_ne_zero nonempty
      refine ⟨⟨⟨positive, by omega⟩, Nat.le_refl _, scene.geometry.blockOf_mono (by omega), ?_⟩,
        fun fresh => (fresh offset bytes rfl).elim, fun _ => False.elim⟩
      rw [Nat.sub_self]
      rfl
  | advance actor =>
      by_cases mine : context = actor
      · subst mine
        exact (advance_moved inv (covers context) performed).1
      · have moved : Moved scene (.advance actor) actor _ _ ∧ _ :=
          advance_moved inv (covers actor) performed
        exact still (moved.2 context mine)
  | failData actor =>
      simp only [step] at performed
      split at performed
      · rename_i offset bytes leases phase
        refine acted (Option.some.inj performed).symm fun mine => ?_
        exact ⟨trivial, fun _ => .inr rfl, fun _ => False.elim⟩
      · cases performed
  | modify actor index value =>
      simp only [step] at performed
      split at performed
      · rename_i buffer phase
        refine acted (Option.some.inj performed).symm fun mine => ?_
        subst mine
        have own := covers actor
        rw [phase] at own ⊢
        exact ⟨⟨own.range, own.leases⟩, fun _ => .inl rfl, fun _ => False.elim⟩
      · cases performed
  | releaseWriteBuffer actor =>
      simp only [step] at performed
      split at performed
      · rename_i buffer phase
        obtain ⟨-, entered⟩ := Option.ite_none_right_eq_some.mp performed
        refine acted (Option.some.inj entered).symm fun mine => ?_
        subst mine
        have own := covers actor
        rw [phase] at own ⊢
        exact ⟨own, fun _ => .inl rfl, fun other => (other rfl).elim⟩
      · cases performed
  | abortWriteBuffer actor =>
      simp only [step] at performed
      split at performed
      · rename_i buffer phase
        refine acted (Option.some.inj performed).symm fun mine => ?_
        subst mine
        have own := covers actor
        rw [phase] at own ⊢
        exact ⟨own, fun _ => .inl rfl, fun _ => False.elim⟩
      · cases performed
  | progress host | publish source destination | deliver source destination =>
      simp only [step, Option.map_eq_some_iff] at performed
      obtain ⟨result, -, rfl⟩ := performed
      exact .refl (covers context)

/-! ## Writeback epochs -/

/-- `BeginWriteback` fails without effect, or makes an even epoch odd. -/
theorem beginWriteback_cases (state : TokenState cluster) (host : cluster.Host)
    (lease : TokenLease) :
    (state.beginWriteback host lease).1.isOk = false ∧
        (state.beginWriteback host lease).2 = state ∨
      (state.beginWriteback host lease).1 = .ok ∧
        (state.beginWriteback host lease).2 = state.setBlock lease.key
          { state.block lease.key with
            writebackEpoch := (state.block lease.key).writebackEpoch + 1 } := by
  simp only [TokenState.beginWriteback, TokenState.activateWriter]
  split
  · split
    · exact .inr ⟨rfl, rfl⟩
    · exact .inl ⟨rfl, rfl⟩
  · rename_i refused
    exact .inl ⟨Bool.eq_false_iff.mpr refused, rfl⟩

/-- An epoch is odd only while a context stores into the block. -/
structure EpochInv (world : WriteWorld cluster) : Prop where
  /-- Nothing under way asks for a writeback epoch. -/
  inactive : world.tokens.state.Inactive
  closed : ∀ key, (world.tokens.state.block key).writebackEpoch % 2 = 1 →
    ∃ context, (world.phase context).storingKey = some key

namespace EpochInv

def Kept (world next : WriteWorld cluster) : Prop :=
  ∀ context key, (world.phase context).storingKey = some key →
    (next.phase context).storingKey = some key

theorem kept_setPhase {reached : WriteWorld cluster} (same : reached.phase = world.phase)
    (nothing : (world.phase context).storingKey = none) (phase : WritePhase) :
    Kept world (reached.setPhase context phase) := by
  intro other key stores
  rw [setPhase_phase]
  split
  · rename_i mine
    rw [mine, nothing] at stores
    cases stores
  · rwa [same]

theorem of_passive (inv : EpochInv world)
    (passive : TokenState.Passive world.tokens.state next.tokens.state)
    (kept : Kept world next) : EpochInv next where
  inactive := passive.inactive
  closed key odd := by
    obtain ⟨context, stores⟩ := inv.closed key (passive.epochs key odd)
    exact ⟨context, kept context key stores⟩

/-- A change of the phases alone. -/
theorem of_tokens (inv : EpochInv world) (tokens : next.tokens = world.tokens)
    (kept : Kept world next) : EpochInv next :=
  inv.of_passive (by rw [tokens]; exact .refl inv.inactive) kept

/-- A call of the services other than `Request` and `BeginWriteback`. -/
theorem of_call (inv : EpochInv world) {called : TokenOp cluster} {status : Status}
    {tokens : TokenConfig cluster} (performed : world.tokens.step called = some (status, tokens))
    (requests : ∀ host key activate, called ≠ .request host key activate)
    (begins : ∀ host lease, called ≠ .beginWriteback host lease)
    (nothing : (world.phase context).storingKey = none) (phase : WritePhase) :
    EpochInv ((world.withTokens tokens).setPhase context phase) :=
  inv.of_passive (TokenConfig.step_passive inv.inactive performed requests begins)
    (kept_setPhase rfl nothing phase)

theorem requested (inv : EpochInv world) {host : cluster.Host} {key : BlockKey} {status : Status}
    {tokens : TokenConfig cluster}
    (performed : world.tokens.step (.request host key false) = some (status, tokens))
    (nothing : (world.phase context).storingKey = none) (phase : WritePhase) :
    EpochInv ((world.withTokens tokens).setPhase context phase) := by
  have moved : tokens.state = (world.tokens.state.request host key false).2 := by
    cases TokenConfig.step_effect performed <;> rfl
  have closed : tokens.state.Inactive ∧ ∀ other,
      (tokens.state.block other).writebackEpoch % 2 = 1 →
        (world.tokens.state.block other).writebackEpoch % 2 = 1 := by
    rw [moved]
    rcases TokenState.Passive.request inv.inactive host key with same | passive
    · rw [same]
      exact ⟨inv.inactive, fun _ => id⟩
    · exact ⟨passive.inactive, passive.epochs⟩
  refine ⟨closed.1, fun other odd => ?_⟩
  obtain ⟨writer, stores⟩ := inv.closed other (closed.2 other odd)
  exact ⟨writer, kept_setPhase rfl nothing phase writer other stores⟩

/-- The context that opens an epoch stores into the block. -/
theorem begun (inv : EpochInv world) {buffer : WriteBuffer} {entry : HeldLease}
    {rest : List HeldLease} {status : Status} {tokens : TokenConfig cluster}
    (nothing : (world.phase context).storingKey = none)
    (performed : world.tokens.step
      (.beginWriteback (scene.contextHost context) entry.lease) = some (status, tokens)) :
    EpochInv ((world.withTokens tokens).setPhase context
      (if status.isOk then .storing buffer entry rest 0 else .unwinding (entry :: rest))) := by
  obtain ⟨rfl, rfl⟩ := Prod.mk.inj (Option.some.inj performed)
  rcases beginWriteback_cases world.tokens.state (scene.contextHost context) entry.lease with
    ⟨failed, same⟩ | ⟨began, same⟩
  · rw [if_neg (by simp [failed])]
    refine inv.of_passive ?_ (kept_setPhase rfl nothing _)
    change TokenState.Passive world.tokens.state
      (world.tokens.state.beginWriteback (scene.contextHost context) entry.lease).2
    rw [same]
    exact .refl inv.inactive
  · rw [if_pos (by simp [began])]
    have state : ((world.withTokens (world.tokens.withState
        (world.tokens.state.beginWriteback (scene.contextHost context) entry.lease).2)).setPhase
          context (.storing buffer entry rest 0)).tokens.state =
        world.tokens.state.setBlock entry.lease.key
          { world.tokens.state.block entry.lease.key with
            writebackEpoch := (world.tokens.state.block entry.lease.key).writebackEpoch + 1 } :=
              same
    refine ⟨?_, fun key odd => ?_⟩
    · rw [state]
      exact ⟨inv.inactive.packets, inv.inactive.pending⟩
    · rw [state] at odd
      by_cases own : key = entry.lease.key
      · refine ⟨context, ?_⟩
        rw [setPhase_phase, if_pos rfl, own]
        rfl
      · obtain ⟨writer, stores⟩ := inv.closed key (by simpa [own] using odd)
        exact ⟨writer, kept_setPhase rfl nothing _ writer key stores⟩

/-- A modified release closes the epoch of its block. -/
theorem released (inv : EpochInv world) (named : world.tokens.NamedInv) {buffer : WriteBuffer}
    {entry : HeldLease} {rest : List HeldLease} {stored : Nat}
    (phase : world.phase context = .storing buffer entry rest stored)
    (leased : world.tokens.leased (scene.contextHost context) entry.requestId = some entry.lease)
    {status : Status} {tokens : TokenConfig cluster}
    (performed : world.tokens.step
      (.release (scene.contextHost context) entry.requestId true) = some (status, tokens))
    (reached : WriteWorld cluster) (services : reached.tokens = tokens)
    (same : reached.phase = world.phase) (after : WritePhase) :
    EpochInv (reached.setPhase context after) := by
  have passive := TokenConfig.step_passive inv.inactive performed (by simp) (by simp)
  have state : (reached.setPhase context after).tokens.state = tokens.state :=
    congrArg TokenConfig.state services
  refine ⟨by rw [state]; exact passive.inactive, fun key odd => ?_⟩
  rw [state] at odd
  have closes : (tokens.state.block entry.lease.key).writebackEpoch % 2 = 0 := by
    have active := TokenConfig.leaseStatus_of_leased named leased
    cases TokenConfig.step_effect performed with
    | released host requestId modified lease found =>
        obtain rfl := Option.some.inj (leased.symm.trans found)
        exact TokenState.Passive.release_closes inv.inactive (by rw [active]; rfl)
  obtain ⟨writer, stores⟩ := inv.closed key (passive.epochs key odd)
  refine ⟨writer, ?_⟩
  rw [setPhase_phase]
  split
  · rename_i mine
    rw [mine, phase] at stores
    obtain rfl := Option.some.inj stores
    omega
  · rwa [same]

/-- A running call. -/
theorem advance (inv : EpochInv world) (write : WriteInv scene world)
    (performed : WriteWorld.advance scene world context = some next) : EpochInv next := by
  cases phase : world.phase context with
  | idle | owned buffer => simp [WriteWorld.advance, phase] at performed
  | requesting offset bytes block leases =>
      simp only [WriteWorld.advance, phase] at performed
      obtain ⟨status, tokens, stepped, rfl⟩ := call_some performed
      exact inv.requested stepped (by rw [phase]; rfl) _
  | waiting offset bytes block requestId leases
  | cancelling requestId leases | awaitingCancel requestId leases =>
      simp only [WriteWorld.advance, phase] at performed
      obtain ⟨status, tokens, stepped, rfl⟩ := call_some performed
      exact inv.of_call stepped (by simp) (by simp) (by rw [phase]; rfl) _
  | unwinding remaining =>
      cases remaining with
      | nil =>
          simp only [WriteWorld.advance, phase] at performed
          obtain rfl := Option.some.inj performed
          exact inv.of_tokens rfl (kept_setPhase rfl (by rw [phase]; rfl) _)
      | cons entry rest =>
          simp only [WriteWorld.advance, phase] at performed
          obtain ⟨status, tokens, stepped, rfl⟩ := call_some performed
          exact inv.of_call stepped (by simp) (by simp) (by rw [phase]; rfl) _
  | copying offset bytes leases copied =>
      simp only [WriteWorld.advance, phase] at performed
      split at performed
      · obtain rfl := Option.some.inj performed
        exact inv.of_tokens rfl (kept_setPhase rfl (by rw [phase]; rfl) _)
      · obtain rfl := Option.some.inj performed
        exact inv.of_tokens rfl (kept_setPhase rfl (by rw [phase]; rfl) _)
  | committing buffer remaining =>
      cases remaining with
      | nil =>
          simp only [WriteWorld.advance, phase] at performed
          obtain rfl := Option.some.inj performed
          exact inv.of_tokens rfl (kept_setPhase rfl (by rw [phase]; rfl) _)
      | cons entry rest =>
          simp only [WriteWorld.advance, phase] at performed
          obtain ⟨status, tokens, stepped, rfl⟩ := call_some performed
          exact inv.begun (by rw [phase]; rfl) stepped
  | storing buffer entry rest stored =>
      have own := write.phases context
      rw [phase] at own
      simp only [WriteWorld.advance, phase] at performed
      split at performed
      · obtain rfl := Option.some.inj performed
        refine inv.of_tokens rfl fun other key stores => ?_
        rw [setPhase_phase]
        split
        · rename_i mine
          rw [mine, phase] at stores
          exact stores
        · exact stores
      · obtain ⟨⟨status, tokens⟩, stepped, rfl⟩ := Option.map_eq_some_iff.mp performed
        exact inv.released write.named phase (own.leases entry List.mem_cons_self).1 stepped
          ((world.withTokens tokens).commit entry.block (world.commitRecord context buffer status))
          rfl rfl _
  | aborting buffer remaining =>
      cases remaining with
      | nil =>
          simp only [WriteWorld.advance, phase] at performed
          obtain rfl := Option.some.inj performed
          exact inv.of_tokens rfl (kept_setPhase rfl (by rw [phase]; rfl) _)
      | cons entry rest =>
          simp only [WriteWorld.advance, phase] at performed
          obtain ⟨released, called, rfl⟩ := Option.map_eq_some_iff.mp performed
          obtain ⟨status, tokens, stepped, rfl⟩ := call_some called
          have reached := inv.of_call stepped (by simp) (by simp)
            (by rw [phase]; rfl : (world.phase context).storingKey = none) (.aborting buffer rest)
          exact ⟨reached.inactive, reached.closed⟩

/-- Every action. -/
theorem step (inv : EpochInv world) (write : WriteInv scene world)
    (performed : WriteWorld.step scene world op = some next) : EpochInv next := by
  cases op with
  | acquireWriteRange actor offset bytes =>
      obtain ⟨⟨phase, -⟩, entered⟩ := Option.ite_none_right_eq_some.mp performed
      obtain rfl := Option.some.inj entered
      exact inv.of_tokens rfl (kept_setPhase rfl (by rw [phase]; rfl) _)
  | advance actor => exact inv.advance write performed
  | failData actor | modify actor index value | abortWriteBuffer actor =>
      simp only [WriteWorld.step] at performed
      split at performed
      · rename_i phase
        obtain rfl := Option.some.inj performed
        exact inv.of_tokens rfl (kept_setPhase rfl (by rw [phase]; rfl) _)
      · cases performed
  | releaseWriteBuffer actor =>
      simp only [WriteWorld.step] at performed
      split at performed
      · rename_i buffer phase
        obtain ⟨-, entered⟩ := Option.ite_none_right_eq_some.mp performed
        obtain rfl := Option.some.inj entered
        exact inv.of_tokens rfl (kept_setPhase rfl (by rw [phase]; rfl) _)
      · cases performed
  | progress host | publish source destination | deliver source destination =>
      simp only [WriteWorld.step, Option.map_eq_some_iff] at performed
      obtain ⟨⟨status, tokens⟩, stepped, rfl⟩ := performed
      exact inv.of_passive (TokenConfig.step_passive inv.inactive stepped (by simp) (by simp))
        fun _ _ stores => stores

theorem initial (scene : WriteScene cluster) : EpochInv (WriteWorld.initial scene) where
  inactive :=
    ⟨by simp [WriteWorld.initial, TokenConfig.initial, TokenState.fifo],
      by simp [WriteWorld.initial, TokenConfig.initial, TokenState.localObject]⟩
  closed key odd := by
    simp [WriteWorld.initial, TokenConfig.initial] at odd

end EpochInv

/-! ## One call -/

/-- The invariants of every run. -/
structure RangeInv (scene : WriteScene cluster) (world : WriteWorld cluster) : Prop where
  /-- Commits follow each other. -/
  write : WriteInv scene world
  /-- Calls hold the leases of their ranges. -/
  covers : ∀ context, (world.phase context).Covers scene
  /-- Epochs are odd only while bytes are stored. -/
  epochs : EpochInv world

theorem RangeInv.step (inv : RangeInv scene world)
    (performed : WriteWorld.step scene world op = some next) : RangeInv scene next where
  write := inv.write.step performed
  covers context := by
    have moved : Moved scene op context _ _ := step_moved inv.write inv.covers performed
    exact moved.covers
  epochs := inv.epochs.step inv.write performed

theorem reaches_range (execution : ReachesBy scene (fun _ _ => True) (initial scene) world) :
    RangeInv scene world :=
  Run.ReachesBy.preserves execution (RangeInv scene)
    ⟨WriteInv.initial scene, fun _ => trivial, EpochInv.initial scene⟩
    fun _ _ _ inv _ performed => inv.step performed

/-- Actions while one call runs: the context begins no other call, and no context commits. -/
def Alone (context : Nat) (op : WriteOp cluster) : Prop :=
  (∀ offset bytes, op ≠ .acquireWriteRange context offset bytes) ∧
    ∀ other, op ≠ .releaseWriteBuffer other

/-- Without a context that commits there is no modified release. -/
theorem commits_of_quiet (performed : step scene world op = some next)
    (quiet : ∀ other, op = .advance other → ¬(world.phase other).Publishing) :
    next.commits = world.commits := by
  rcases step_commits performed with
    same | ⟨actor, buffer, held, rest, stored, status, tokens, acts, phase, -⟩
  · exact same
  · exact (quiet actor acts (by rw [phase]; trivial)).elim

/-- A context that commits is moved by its own call only. -/
theorem publishing_still (performed : step scene world op = some next)
    (publishing : (world.phase context).Publishing) (other : op ≠ .advance context)
    (inv : RangeInv scene world) : next.phase context = world.phase context := by
  have still : ∀ {actor : Nat} {phase' : WritePhase}, next = world.setPhase actor phase' →
      ¬(world.phase actor).Publishing → next.phase context = world.phase context := by
    intro actor phase' same idle
    rw [same, setPhase_phase, if_neg]
    rintro rfl
    exact idle publishing
  cases op with
  | acquireWriteRange actor offset bytes =>
      obtain ⟨⟨phase, -⟩, entered⟩ := Option.ite_none_right_eq_some.mp performed
      exact still (Option.some.inj entered).symm (by rw [phase]; exact id)
  | advance actor =>
      have moved : Moved scene (.advance actor) actor _ _ ∧ _ :=
        advance_moved inv.write (inv.covers actor) performed
      exact moved.2 context fun same => other (by rw [same])
  | failData actor | modify actor index value | abortWriteBuffer actor =>
      simp only [step] at performed
      split at performed
      · rename_i phase
        exact still (Option.some.inj performed).symm (by rw [phase]; exact id)
      · cases performed
  | releaseWriteBuffer actor =>
      simp only [step] at performed
      split at performed
      · rename_i buffer phase
        obtain ⟨-, entered⟩ := Option.ite_none_right_eq_some.mp performed
        exact still (Option.some.inj entered).symm (by rw [phase]; exact id)
      · cases performed
  | progress host | publish source destination | deliver source destination =>
      simp only [step, Option.map_eq_some_iff] at performed
      obtain ⟨result, -, rfl⟩ := performed
      rfl

/-- Between the beginning of `AcquireWriteRange` and that of `ReleaseWriteBuffer`. -/
structure Acquiring (scene : WriteScene cluster) (start : WriteWorld cluster) (context : Nat)
    (offset bytes : Nat) (world : WriteWorld cluster) : Prop where
  /-- The invariants of every run. -/
  inv : RangeInv scene world
  commits : world.commits = start.commits
  /-- Nobody commits. -/
  quiet : ∀ other, ¬(world.phase other).Publishing
  range : (world.phase context).range = some (offset, bytes) ∨ (world.phase context).range = none

theorem Acquiring.step {start : WriteWorld cluster} {offset bytes : Nat}
    (acquiring : Acquiring scene start context offset bytes world) (alone : Alone context op)
    (performed : WriteWorld.step scene world op = some next) :
    Acquiring scene start context offset bytes next := by
  have moved : ∀ other, Moved scene op other (world.phase other) (next.phase other) :=
    fun other => step_moved acquiring.inv.write acquiring.inv.covers performed
  refine ⟨acquiring.inv.step performed, ?_, ?_, ?_⟩
  · rw [← acquiring.commits]
    exact commits_of_quiet performed fun other _ => acquiring.quiet other
  · exact fun other publishing =>
      acquiring.quiet other ((moved other).publishing (alone.2 other) publishing)
  · rcases (moved context).range alone.1 with same | ended
    · rw [same]
      exact acquiring.range
    · exact .inr ended

def Stands (buffer : WriteBuffer) (remaining : List HeldLease) (phase : WritePhase) : Prop :=
  phase = .committing buffer remaining ∨
    ∃ held rest stored, remaining = held :: rest ∧ phase = .storing buffer held rest stored

/-- The modified releases of a block are those before the call and one of the buffer. -/
def CommittedOnce (start world : WriteWorld cluster) (buffer : WriteBuffer) (block : Nat) : Prop :=
  ∃ record : CommitRecord, world.commits block = start.commits block ++ [record] ∧
    record.offset = buffer.offset ∧ record.written = buffer.storage

/-- Between the beginning and the end of `ReleaseWriteBuffer`. -/
structure Committing (scene : WriteScene cluster) (start : WriteWorld cluster) (context : Nat)
    (buffer : WriteBuffer) (world : WriteWorld cluster) : Prop where
  /-- The invariants of every run. -/
  inv : RangeInv scene world
  /-- Nobody else commits. -/
  quiet : ∀ other ≠ context, ¬(world.phase other).Publishing
  /-- Unless it failed, the call has committed exactly the blocks before the one at which it
  stands. -/
  progress : (world.phase context).Publishing → ∃ done remaining,
    buffer.leases = done ++ remaining ∧ Stands buffer remaining (world.phase context) ∧
      (∀ block ∈ done.map HeldLease.block, CommittedOnce start world buffer block) ∧
      ∀ block ∉ done.map HeldLease.block, world.commits block = start.commits block

theorem nodup_blocks {buffer : WriteBuffer} (leased : WritePhase.HasLeases scene buffer) :
    (buffer.leases.map HeldLease.block).Nodup := by
  rw [leased.leases]
  exact (scene.geometry.pairwise_blocksOf _ _).imp fun smaller => Nat.ne_of_lt smaller

/-- The call commits its blocks one after the other. -/
theorem Committing.advance {start : WriteWorld cluster} {buffer : WriteBuffer}
    (committing : Committing scene start context buffer world)
    (performed : WriteWorld.advance scene world context = some next)
    (publishing : (next.phase context).Publishing) : ∃ done remaining,
      buffer.leases = done ++ remaining ∧ Stands buffer remaining (next.phase context) ∧
        (∀ block ∈ done.map HeldLease.block, CommittedOnce start next buffer block) ∧
        ∀ block ∉ done.map HeldLease.block, next.commits block = start.commits block := by
  have moved : Moved scene (.advance context) context _ _ ∧ _ :=
    advance_moved committing.inv.write (committing.inv.covers context) performed
  have before := moved.1.publishing (by simp) publishing
  obtain ⟨done, remaining, split, stands, committed, others⟩ := committing.progress before
  rcases stands with phase | ⟨held, rest, stored, rfl, phase⟩
  · cases remaining with
    | nil =>
        simp only [WriteWorld.advance, phase] at performed
        obtain rfl := Option.some.inj performed
        rw [setPhase_phase, if_pos rfl] at publishing
        exact publishing.elim
    | cons entry rest =>
        simp only [WriteWorld.advance, phase] at performed
        obtain ⟨status, tokens, -, rfl⟩ := call_some performed
        refine ⟨done, entry :: rest, split, ?_, committed, others⟩
        rw [setPhase_phase, if_pos rfl] at publishing ⊢
        cases ok : status.isOk with
        | true => exact .inr ⟨entry, rest, 0, rfl, rfl⟩
        | false =>
            rw [ok] at publishing
            exact publishing.elim
  · have leased := committing.inv.covers context
    rw [phase] at leased
    have nodup := nodup_blocks leased
    rw [split, List.map_append, List.map_cons] at nodup
    simp only [WriteWorld.advance, phase] at performed
    split at performed
    · obtain rfl := Option.some.inj performed
      refine ⟨done, held :: rest, split, .inr ⟨held, rest, stored + 1, rfl, ?_⟩, committed, others⟩
      rw [setPhase_phase, if_pos rfl]
    · obtain ⟨⟨status, tokens⟩, -, rfl⟩ := Option.map_eq_some_iff.mp performed
      have fresh : held.block ∉ done.map HeldLease.block := fun member =>
        (List.nodup_append.mp nodup).2.2 held.block member held.block List.mem_cons_self rfl
      have record : ∀ block, (((world.withTokens tokens).commit held.block
          (world.commitRecord context buffer status)).commits) block =
            if block = held.block then
              start.commits held.block ++ [world.commitRecord context buffer status]
            else world.commits block := by
        intro block
        by_cases same : block = held.block
        · subst same
          rw [if_pos rfl, ← others _ fresh]
          exact Function.update_self ..
        · rw [if_neg same]
          exact Function.update_of_ne same ..
      refine ⟨done ++ [held], rest, by simp [split], ?_, fun block member => ?_,
        fun block absent => ?_⟩
      · rw [setPhase_phase, if_pos rfl] at publishing ⊢
        cases ok : status.isOk with
        | true => exact .inl rfl
        | false =>
            rw [ok] at publishing
            exact publishing.elim
      · rw [List.map_append, List.mem_append] at member
        rcases member with earlier | last
        · have different : block ≠ held.block := fun same => fresh (same ▸ earlier)
          obtain ⟨entry, extended, offset, written⟩ := committed block earlier
          refine ⟨entry, ?_, offset, written⟩
          rw [← extended]
          exact (record block).trans (if_neg different)
        · have same : block = held.block := List.mem_singleton.mp last
          refine ⟨world.commitRecord context buffer status, ?_, rfl, rfl⟩
          rw [same]
          exact (record held.block).trans (if_pos rfl)
      · rw [List.map_append, List.mem_append, not_or] at absent
        have different : block ≠ held.block := fun same => absent.2 (List.mem_singleton.mpr same)
        rw [← others block absent.1]
        exact (record block).trans (if_neg different)

theorem Committing.step {start : WriteWorld cluster} {buffer : WriteBuffer}
    (committing : Committing scene start context buffer world) (alone : Alone context op)
    (performed : WriteWorld.step scene world op = some next) :
    Committing scene start context buffer next := by
  have moved : ∀ other, Moved scene op other (world.phase other) (next.phase other) :=
    fun other => step_moved committing.inv.write committing.inv.covers performed
  refine ⟨committing.inv.step performed, fun other different publishing =>
    committing.quiet other different ((moved other).publishing (alone.2 other) publishing),
    fun publishing => ?_⟩
  by_cases own : op = .advance context
  · rw [own] at performed
    exact committing.advance performed publishing
  · have before := (moved context).publishing (alone.2 context) publishing
    have same := publishing_still performed before own committing.inv
    have kept : next.commits = world.commits := by
      refine commits_of_quiet performed fun other acts => committing.quiet other ?_
      rintro rfl
      exact own acts
    rw [same, kept]
    obtain ⟨done, remaining, split, stands, committed, others⟩ := committing.progress before
    refine ⟨done, remaining, split, stands, fun block member => ?_, others⟩
    obtain ⟨record, extended, offset, written⟩ := committed block member
    exact ⟨record, by rw [kept, extended], offset, written⟩

/-! ## The range is written -/

/-- The shared region by address: the bytes of a world are those behind the base of its object. -/
def region (scene : WriteScene cluster) (below : Nat → UInt8) (world : WriteWorld cluster)
    (address : Nat) : UInt8 :=
  if address < scene.object.offset then below address
  else world.bytes (address - scene.object.offset)

theorem not_storesAt {phase : WritePhase} (idle : ¬phase.Publishing) (block : Nat) :
    ¬phase.StoresAt block := by
  intro stores
  cases phase <;> first | exact stores.elim | exact idle trivial

theorem storingKey_eq_none {phase : WritePhase} (idle : ¬phase.Publishing) :
    phase.storingKey = none := by
  cases phase <;> first | rfl | exact (idle trivial).elim

/-- Without a commit the bytes stay. -/
theorem bytes_of_commits {start : WriteWorld cluster} (before : RangeInv scene start)
    (after : RangeInv scene world) (stillBefore : ∀ other, ¬(start.phase other).Publishing)
    (stillAfter : ∀ other, ¬(world.phase other).Publishing)
    (commits : world.commits = start.commits) : world.bytes = start.bytes := by
  funext position
  rw [after.write.resting position fun other => not_storesAt (stillAfter other) _, commits,
    before.write.resting position fun other => not_storesAt (stillBefore other) _]

theorem bytes_of_committed {start : WriteWorld cluster} {buffer : WriteBuffer}
    (before : RangeInv scene start) (after : RangeInv scene world)
    (stillBefore : ∀ other block, ¬(start.phase other).StoresAt block)
    (stillAfter : ∀ other block, ¬(world.phase other).StoresAt block)
    (committed : ∀ block, scene.geometry.Intersects buffer.offset buffer.storage.length block →
      CommittedOnce start world buffer block)
    (others : ∀ block, ¬scene.geometry.Intersects buffer.offset buffer.storage.length block →
      world.commits block = start.commits block) :
    world.bytes = overlay buffer.offset buffer.storage start.bytes := by
  funext position
  rw [after.write.resting position fun other => stillAfter other _]
  by_cases meets : scene.geometry.Intersects buffer.offset buffer.storage.length
      (scene.geometry.blockOf position)
  · obtain ⟨record, extended, offset, written⟩ := committed _ meets
    have follows := after.write.follows (scene.geometry.blockOf position)
      (start.commits (scene.geometry.blockOf position)).length record (by simp [extended])
    rw [extended, List.take_left] at follows
    rw [extended, WriteScene.leftBy_append, follows.applied position rfl, offset, written, overlay,
      before.write.resting position fun other => stillBefore other _]
  · have outside : ¬(buffer.offset ≤ position ∧
        position < buffer.offset + buffer.storage.length) :=
      fun inside => meets ⟨position, inside.1, inside.2, rfl⟩
    rw [others _ meets, overlay_outside _ outside,
      before.write.resting position fun other => stillBefore other _]

/-! ## Sessions -/

/-- A context acquires the buffer of a range and releases it with success, while it begins no other
call and no other context commits. -/
structure RangeSession (scene : WriteScene cluster) (context offset bytes : Nat)
    (start : WriteWorld cluster) (buffer : WriteBuffer) (returned : WriteWorld cluster) : Prop where
  /-- Anything may have happened before. -/
  reached : ReachesBy scene (fun _ _ => True) (initial scene) start
  alone : ∀ other ≠ context, ¬(start.phase other).Publishing
  /-- `AcquireWriteRange` begins and returns the buffer, the caller changes it, `ReleaseWriteBuffer`
  begins, has no lease left to commit, and returns. -/
  run : ∃ entered owned begun finished,
    step scene start (.acquireWriteRange context offset bytes) = some entered ∧
    ReachesBy scene (fun _ op => Alone context op) entered owned ∧
    owned.phase context = .owned buffer ∧
    step scene owned (.releaseWriteBuffer context) = some begun ∧
    ReachesBy scene (fun _ op => Alone context op) begun finished ∧
    finished.phase context = .committing buffer [] ∧
    step scene finished (.advance context) = some returned

/-- What is known at the end of a session. -/
structure SessionResult (scene : WriteScene cluster) (offset bytes : Nat)
    (start : WriteWorld cluster) (buffer : WriteBuffer) (returned : WriteWorld cluster) : Prop where
  /-- The invariants held at the beginning. -/
  before : RangeInv scene start
  /-- They hold at the end. -/
  after : RangeInv scene returned
  stillBefore : ∀ other block, ¬(start.phase other).StoresAt block
  /-- Nobody stores at the end. -/
  stillAfter : ∀ other, ¬(returned.phase other).Publishing
  /-- The buffer begins where the range does. -/
  offset_eq : buffer.offset = offset
  /-- It has the size of the range. -/
  copied_length : buffer.copied.length = bytes
  /-- It kept its size. -/
  storage_length : buffer.storage.length = bytes
  leased : WritePhase.HasLeases scene buffer
  object : ∀ held ∈ buffer.leases, held.lease.key.object = scene.object
  /-- The copy is what was there. -/
  copied : ∀ index < bytes, buffer.copied[index]? = some (start.bytes (offset + index))
  committed : ∀ block, scene.geometry.Intersects offset bytes block →
    CommittedOnce start returned buffer block
  others : ∀ block, ¬scene.geometry.Intersects offset bytes block →
    returned.commits block = start.commits block

/-- An acquired buffer is a copy of its range. -/
theorem Acquiring.owned {start : WriteWorld cluster} {offset bytes : Nat} {buffer : WriteBuffer}
    (acquiring : Acquiring scene start context offset bytes world)
    (phase : world.phase context = .owned buffer) :
    buffer.offset = offset ∧ buffer.copied.length = bytes ∧ buffer.storage.length = bytes ∧
      WritePhase.HasLeases scene buffer ∧
      (∀ held ∈ buffer.leases, held.lease.key.object = scene.object) ∧
      ∀ index < bytes, buffer.copied[index]? = some (world.bytes (offset + index)) := by
  have own := acquiring.inv.write.phases context
  have covers := acquiring.inv.covers context
  have range := acquiring.range
  rw [phase] at own covers range
  obtain ⟨rfl, rfl⟩ : buffer.offset = offset ∧ buffer.copied.length = bytes := by
    simpa [WritePhase.range] using range
  refine ⟨rfl, rfl, own.established, covers, fun held member => (own.leases held member).2,
    fun index inside => ?_⟩
  have meets : scene.geometry.Intersects buffer.offset buffer.copied.length
      (scene.geometry.blockOf (buffer.offset + index)) :=
    ⟨_, Nat.le_add_right _ _, Nat.add_lt_add_left inside _, rfl⟩
  rw [← ObjectGeometry.mem_blocksOf covers.range.bytes_pos, ← covers.leases] at meets
  obtain ⟨held, member, block⟩ := List.mem_map.mp meets
  have copied := own.copied buffer.offset buffer.copied rfl held member (buffer.offset + index)
    block.symm (Nat.le_add_right _ _) (Nat.add_lt_add_left inside _)
  rw [Nat.add_sub_cancel_left] at copied
  rw [copied, block, acquiring.inv.write.resting _ fun other =>
    not_storesAt (acquiring.quiet other) _]

/-- `ReleaseWriteBuffer` begins with all leases. -/
theorem committing_start {buffer : WriteBuffer} (inv : RangeInv scene world)
    (quiet : ∀ other, ¬(world.phase other).Publishing)
    (phase : world.phase context = .owned buffer)
    (performed : step scene world (.releaseWriteBuffer context) = some next) :
    Committing scene world context buffer next := by
  have after := inv.step performed
  simp only [step, phase] at performed
  obtain ⟨-, entered⟩ := Option.ite_none_right_eq_some.mp performed
  obtain rfl := Option.some.inj entered
  refine ⟨after, fun other different => ?_, fun _ => ?_⟩
  · rw [setPhase_phase, if_neg different]
    exact quiet other
  · refine ⟨[], buffer.leases, rfl, .inl ?_, by simp, fun _ _ => rfl⟩
    rw [setPhase_phase, if_pos rfl]

theorem RangeSession.result {offset bytes : Nat} {start returned : WriteWorld cluster}
    {buffer : WriteBuffer}
    (session : RangeSession scene context offset bytes start buffer returned) :
    SessionResult scene offset bytes start buffer returned := by
  obtain ⟨entered, owned, begun, finished, enters, acquires, owns, begins, commits, ended,
    returns⟩ :=
    session.run
  have before := reaches_range session.reached
  have opened := Option.ite_none_right_eq_some.mp enters
  have quiet : ∀ other, ¬(start.phase other).Publishing := by
    intro other
    by_cases own : other = context
    · rw [own, opened.1.1]
      exact id
    · exact session.alone other own
  have first : Acquiring scene start context offset bytes entered := by
    have inside := before.step enters
    obtain rfl := Option.some.inj opened.2
    refine ⟨inside, rfl, fun other => ?_, .inl ?_⟩
    · rw [setPhase_phase]
      split
      · exact id
      · exact quiet other
    · rw [setPhase_phase, if_pos rfl]
      rfl
  have acquiring := Run.ReachesBy.preserves acquires
    (Acquiring scene start context offset bytes) first
    fun _ _ _ inv alone performed => inv.step alone performed
  obtain ⟨offsetEq, copiedLength, storageLength, leased, object, copied⟩ := acquiring.owned owns
  have committing := Run.ReachesBy.preserves commits (Committing scene owned context buffer)
    (committing_start acquiring.inv acquiring.quiet owns begins)
    fun _ _ _ inv alone performed => inv.step alone performed
  obtain ⟨done, remaining, split, stands, committed, others⟩ :=
    committing.progress (by rw [ended]; trivial)
  have finishedAll : remaining = [] := by
    rw [ended] at stands
    rcases stands with phase | ⟨held, rest, stored, -, phase⟩
    · injection phase with _ rest
      exact rest.symm
    · cases phase
  have whole : done.map HeldLease.block = scene.geometry.blocksOf offset bytes := by
    rw [finishedAll, List.append_nil] at split
    rw [← split, leased.leases, offsetEq, copiedLength]
  have positive : 0 < bytes := copiedLength ▸ leased.range.bytes_pos
  have same := bytes_of_commits before acquiring.inv quiet acquiring.quiet acquiring.commits
  have after := committing.inv.step returns
  simp only [step, advance, ended] at returns
  obtain rfl := Option.some.inj returns
  refine ⟨before, after, fun other => not_storesAt (quiet other), fun other => ?_, offsetEq,
    copiedLength, storageLength, leased, object, fun index inside => ?_, fun block meets => ?_,
    fun block misses => ?_⟩
  · rw [setPhase_phase]
    split
    · exact id
    · rename_i different
      exact committing.quiet other different
  · rw [← same]
    exact copied index inside
  · rw [← ObjectGeometry.mem_blocksOf positive, ← whole] at meets
    obtain ⟨record, extended, origin, written⟩ := committed block meets
    exact ⟨record, by rw [← acquiring.commits]; exact extended, origin, written⟩
  · rw [← ObjectGeometry.mem_blocksOf positive, ← whole] at misses
    rw [← acquiring.commits]
    exact others block misses

/-! ## Reading the range back -/

/-- The allocation of the object. -/
structure Allocates (scene : WriteScene cluster) (info : AllocationInfo) : Prop where
  /-- Size of the object. -/
  bytes : info.bytes = scene.geometry.bytes
  coherenceBlockBytes : info.coherenceBlockBytes = scene.geometry.coherenceBlockBytes
  coherenceBlockCount : info.coherenceBlockCount = scene.geometry.coherenceBlockCount

/-- A reader finds the object in the shared region as the world has it. -/
structure Reads (scene : WriteScene cluster) (world : WriteWorld cluster) (info : AllocationInfo)
    (reader : ReadRange.Context) : Prop where
  reference : ∀ descriptor, reader.reference = .ok descriptor → descriptor = info
  bytes : ∀ position < info.bytes,
    reader.region.bytes (scene.object.offset + position) = world.bytes position
  blocks : ∀ block < info.coherenceBlockCount,
    reader.region.blocks (ReplicaCache.blockKey info block) =
      ⟨(world.tokens.state.block ⟨scene.object, block⟩).version,
        (world.tokens.state.block ⟨scene.object, block⟩).writebackEpoch⟩

/-- A cache has no block of the object. -/
structure Uncached (object : GlobalPointer) (info : AllocationInfo) (cache : ReplicaCache) :
    Prop where
  /-- No index has an entry of the object. -/
  entries : ∀ age entry, ∀ block < info.coherenceBlockCount,
    (ReplicaCache.blockKey info block, entry) ∉ cache.index age
  records : ∀ record, cache.cachedObjects object.offset = some record → record.info = info

def currentContent (scene : WriteScene cluster) (bytes : Nat → UInt8) : ReadRange.BlockContent :=
  fun block _ position => bytes (scene.geometry.blockStart block + position)

theorem Allocates.shaped {info : AllocationInfo} (allocates : Allocates scene info) :
    ReadRange.Shaped info where
  coherenceBlockBytes_pos := by
    rw [allocates.coherenceBlockBytes]
    exact scene.geometry.coherenceBlockBytes_pos
  covered := by
    have whole := Nat.div_add_mod (scene.geometry.bytes - 1) scene.geometry.coherenceBlockBytes
    have rest := Nat.mod_lt (scene.geometry.bytes - 1) scene.geometry.coherenceBlockBytes_pos
    rw [allocates.bytes, allocates.coherenceBlockCount, allocates.coherenceBlockBytes,
      ObjectGeometry.coherenceBlockCount, Nat.add_mul, Nat.one_mul, Nat.mul_comm]
    omega

theorem Reads.shows {info : AllocationInfo} {reader : ReadRange.Context}
    (reads : Reads scene world info reader) (allocates : Allocates scene info) :
    reader.Shows scene.object info (currentContent scene world.bytes) where
  reference := reads.reference
  shared block _ position inside := by
    have below : block * info.coherenceBlockBytes + position < info.bytes := by
      rw [ReadRange.blockLength] at inside
      omega
    rw [Nat.add_assoc, reads.bytes _ below, allocates.coherenceBlockBytes]
    rfl

theorem Uncached.holds {object : GlobalPointer} {info : AllocationInfo} {cache : ReplicaCache}
    (uncached : Uncached object info cache) (content : ReadRange.BlockContent) :
    ReadRange.Holds object info content cache where
  entries age entry block inside member := (uncached.entries age entry block inside member).elim
  records := uncached.records

theorem bytes_of_slices {info : AllocationInfo} (allocates : Allocates scene info)
    {snapshot : ReadRange.Snapshot} {bytes : Nat → UInt8} {first count : Nat}
    (slices : snapshot.Slices info (currentContent scene bytes) first count) {index : Nat}
    (inside : index < count) : snapshot.storage[index]? = some (bytes (first + index)) := by
  obtain ⟨version, -, byte⟩ := slices.bytes index inside
  have whole := Nat.div_add_mod (first + index) scene.geometry.coherenceBlockBytes
  rw [byte, currentContent, allocates.coherenceBlockBytes, ObjectGeometry.blockStart, Nat.mul_comm,
    whole]

/-- A successful range commit takes exactly the leases of the blocks that its range meets, in
ascending order; replaces the bytes of the range by those of the buffer and no other byte of the
region; increments by
one the versions of exactly these blocks; and leaves every writeback epoch even.  An untouched
buffer changes no byte, and a read that finds nothing in its cache returns the range over what was
there before. -/
theorem range_commit_exact {offset bytes : Nat} {start returned : WriteWorld cluster}
    {buffer : WriteBuffer}
    (session : RangeSession scene context offset bytes start buffer returned) :
    ((buffer.leases.map HeldLease.block).Pairwise (· < ·) ∧
      (∀ block, block ∈ buffer.leases.map HeldLease.block ↔
        scene.geometry.Intersects offset bytes block) ∧
      ∀ held ∈ buffer.leases, held.lease.key.object = scene.object) ∧
    (∀ below,
      (∀ index < bytes, buffer.storage[index]? =
        some (region scene below returned (scene.object.offset + offset + index))) ∧
      ∀ address, ¬(scene.object.offset + offset ≤ address ∧
          address < scene.object.offset + offset + bytes) →
        region scene below returned address = region scene below start address) ∧
    (∀ block, (scene.geometry.Intersects offset bytes block →
        (returned.tokens.state.block ⟨scene.object, block⟩).version =
          (start.tokens.state.block ⟨scene.object, block⟩).version + 1) ∧
      (¬scene.geometry.Intersects offset bytes block →
        (returned.tokens.state.block ⟨scene.object, block⟩).version =
          (start.tokens.state.block ⟨scene.object, block⟩).version)) ∧
    (∀ key, (returned.tokens.state.block key).writebackEpoch % 2 = 0) ∧
    (buffer.storage = buffer.copied → returned.bytes = start.bytes) ∧
    (∀ info reader cache first count timeoutMs fullObject, Allocates scene info →
      Reads scene returned info reader → Uncached scene.object info cache →
      (∀ snapshot, (ReadRange.readRange reader cache scene.object first count timeoutMs
          fullObject).1 = .ok snapshot →
        snapshot.storage.length = ReadRange.requestedBytes info count fullObject ∧
          ∀ index < ReadRange.requestedBytes info count fullObject,
            snapshot.storage[index]? =
              some (overlay offset buffer.storage start.bytes (first + index))) ∧
      (reader.initialized = true → reader.reference = .ok info →
        (∀ block, 0 < reader.attempts block) → timeoutMs ≠ 0 → scene.object.regionId = 0 →
        ReadRange.Accepts info first (ReadRange.requestedBytes info count fullObject) →
        ∃ snapshot, (ReadRange.readRange reader cache scene.object first count timeoutMs
          fullObject).1 = .ok snapshot)) := by
  have result := session.result
  obtain ⟨rfl, sized⟩ : buffer.offset = offset ∧ buffer.storage.length = bytes :=
    ⟨result.offset_eq, result.storage_length⟩
  have nonempty : 0 < bytes := result.copied_length ▸ result.leased.range.bytes_pos
  have blocks : buffer.leases.map HeldLease.block =
      scene.geometry.blocksOf buffer.offset bytes := by
    rw [result.leased.leases, result.copied_length]
  have written : returned.bytes = overlay buffer.offset buffer.storage start.bytes := by
    refine bytes_of_committed result.before result.after result.stillBefore
      (fun other => not_storesAt (result.stillAfter other)) ?_ ?_
    · rw [sized]
      exact result.committed
    · rw [sized]
      exact result.others
  have even : ∀ key, (returned.tokens.state.block key).writebackEpoch % 2 = 0 := by
    intro key
    rcases Nat.mod_two_eq_zero_or_one (returned.tokens.state.block key).writebackEpoch with
      zero | odd
    · exact zero
    · obtain ⟨writer, stores⟩ := result.after.epochs.closed key odd
      rw [storingKey_eq_none (result.stillAfter writer)] at stores
      cases stores
  refine ⟨⟨?_, fun block => ?_, result.object⟩,
    fun below => ⟨fun index inside => ?_, fun address outside => ?_⟩,
    fun block => ⟨fun meets => ?_, fun misses => ?_⟩, even, fun untouched => ?_, ?_⟩
  · rw [blocks]
    exact scene.geometry.pairwise_blocksOf _ _
  · rw [blocks]
    exact ObjectGeometry.mem_blocksOf nonempty
  · rw [region, if_neg (by omega), Nat.add_assoc, Nat.add_sub_cancel_left, written]
    exact overlay_inside start.bytes (by rw [sized]; exact inside)
  · simp only [region]
    split
    · rfl
    · rw [written]
      exact overlay_outside start.bytes (by rw [sized]; omega)
  · obtain ⟨record, extended, -⟩ := result.committed block meets
    rw [result.after.write.version, result.before.write.version, extended, List.length_append]
    rfl
  · rw [result.after.write.version, result.before.write.version, result.others block misses]
  · rw [written]
    refine overlay_same fun index inside => ?_
    rw [sized] at inside
    rw [untouched]
    exact result.copied index inside
  · intro info reader cache first count timeoutMs fullObject allocates reads uncached
    have shows := reads.shows allocates
    have holds := uncached.holds (currentContent scene returned.bytes)
    refine ⟨fun snapshot read => ?_, fun initialized reference timely timed region accepts => ?_⟩
    · have slices := ReadRange.slices_of_readRange shows allocates.shaped holds read
      refine ⟨slices.length, fun index inside => ?_⟩
      rw [← written]
      exact bytes_of_slices allocates slices inside
    · have quiet : reader.Undisturbed info first
          (ReadRange.requestedBytes info count fullObject) := by
        refine ⟨initialized, reference, fun block _ _ => timely block, fun block _ high => ?_⟩
        have within : (ReadRange.requestedRange scene.object info first
            (ReadRange.requestedBytes info count fullObject)).Within info := accepts.within
        have inside : block < info.coherenceBlockCount := within.index_lt allocates.shaped high
        rw [reads.blocks block inside]
        exact even _
      obtain ⟨state, ran⟩ := ReadRange.assemble_isOk shows allocates.shaped holds timed region
        accepts quiet
      exact ⟨_, by rw [ReadRange.readRange, ran]⟩

/-! ## A range across two blocks -/

def threeBlocks : WriteScene TokenConfig.threeHosts where
  geometry := ⟨160, 64, oneByte.geometry.coherenceBlockBytes_pos⟩
  object := ⟨0, 64⟩
  owner := TokenConfig.host0
  contextHost := fun _ => TokenConfig.host0
  content := fun position => UInt8.ofNat position

/-- The caller acquires the range and changes its second byte. -/
def crossingAcquire : List (WriteOp TokenConfig.threeHosts) :=
  List.replicate 9 (.advance 0) ++ [.modify 0 1 200]

/-- The buffer that it releases. -/
def crossingBuffer : WriteBuffer where
  leases := [⟨1, ⟨⟨⟨0, 64⟩, 0⟩, 0, 1⟩⟩, ⟨2, ⟨⟨⟨0, 64⟩, 1⟩, 0, 1⟩⟩]
  offset := 62
  copied := [62, 63, 64, 65]
  storage := [62, 200, 64, 65]

/-- The call itself is not disturbed by its own actions. -/
theorem reaches_crossing {before after : WriteWorld TokenConfig.threeHosts}
    {ops : List (WriteOp TokenConfig.threeHosts)} (alone : ∀ op ∈ ops, Alone 0 op)
    (execution : runOps threeBlocks before ops = some after) :
    ReachesBy threeBlocks (fun _ op => Alone 0 op) before after :=
  Run.reachesBy_of_runLabels execution
    (Run.admitsLabels_of_forall (fun op member _ => alone op member) before)

theorem range_commit_exact_crossing :
    ∃ returned, RangeSession threeBlocks 0 62 4 (initial threeBlocks) crossingBuffer returned ∧
      region threeBlocks (fun _ => 0) returned 127 = 200 ∧
      (returned.tokens.state.block ⟨⟨0, 64⟩, 1⟩).version = 1 ∧
      (returned.tokens.state.block ⟨⟨0, 64⟩, 2⟩).version = 0 := by
  have holds : ((step threeBlocks (initial threeBlocks) (.acquireWriteRange 0 62 4)).bind
      fun entered => (runOps threeBlocks entered crossingAcquire).bind
      fun owned => (step threeBlocks owned (.releaseWriteBuffer 0)).bind
      fun begun => (runOps threeBlocks begun (List.replicate 8 (.advance 0))).bind
      fun finished => (step threeBlocks finished (.advance 0)).map
      fun _ => (owned.phase 0 = .owned crossingBuffer ∧
        finished.phase 0 = .committing crossingBuffer [] : Bool)) = some true := by
    decide +kernel
  obtain ⟨entered, enters, acquiring⟩ := Option.bind_eq_some_iff.mp holds
  obtain ⟨owned, acquires, releasing⟩ := Option.bind_eq_some_iff.mp acquiring
  obtain ⟨begun, begins, committing⟩ := Option.bind_eq_some_iff.mp releasing
  obtain ⟨finished, commits, ending⟩ := Option.bind_eq_some_iff.mp committing
  obtain ⟨returned, returns, found⟩ := Option.map_eq_some_iff.mp ending
  obtain ⟨owns, ended⟩ := of_decide_eq_true found
  have acquired := reaches_crossing (by simp [crossingAcquire, Alone]) acquires
  have committed := reaches_crossing (by simp [Alone]) commits
  have session : RangeSession threeBlocks 0 62 4 (initial threeBlocks) crossingBuffer returned :=
    ⟨.refl, fun _ _ => id,
      entered, owned, begun, finished, enters, acquired, owns, begins, committed, ended, returns⟩
  obtain ⟨-, bytes, versions, -⟩ := range_commit_exact session
  have second := (bytes fun _ => 0).1 1 (by decide)
  refine ⟨returned, session, (Option.some.inj second).symm, ?_, ?_⟩
  · exact (versions 1).1 ⟨64, by decide⟩
  · refine (versions 2).2 ?_
    rintro ⟨position, -, high, block⟩
    simp [ObjectGeometry.blockOf, threeBlocks] at block
    omega

end WriteWorld

end Cxloom.LoomMem
