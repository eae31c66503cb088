import Cxloom.LoomPar.BarrierPublication

/-!
# Staged writes are visible after a barrier

What a context stages is committed before its call is counted, a call returns success only after
all calls of its generation were counted, and then it passes a boundary of its host.  Every later
read of that host covers the versions that were committed at the boundary.
-/

namespace Cxloom.LoomPar
namespace PublicationWorld

open LoomMem

variable {cluster : Cluster} {scene : BarrierScene cluster}

/-- Everything one action can do, with the action that it performs on the barrier managers. -/
inductive Effect (world : PublicationWorld scene) :
    Option (BarrierOp cluster) → PublicationWorld scene → Prop
  | staged (context : Nat) (staged : StagedWrite scene) (running : world.phase context = .running)
      (free : world.owner staged.object staged.buffer = none) :
      Effect world none
        { world with
          staged := Function.update world.staged context (world.staged context ++ [staged])
          owner := Function.update world.owner staged.object
            (Function.update (world.owner staged.object) staged.buffer (some context))
          history := Function.update world.history context (world.history context ++ [staged]) }
  | refused : Effect world none world
  | taken (context : Nat) (barrier : Option (Nat × Nat))
    (running : world.phase context = .running) :
      Effect world none (world.takeStaged context barrier)
  | released (context : Nat) (phase : world.phase context = .releasing none []) :
      Effect world none (world.setPhase context .running)
  | turnedAway (context id participants : Nat) (barrier : BarrierWorld cluster)
      (phase : world.phase context = .releasing (some (id, participants)) [])
      (performed : world.barrier.next (.wait (scene.contextHost context) id participants) =
        some barrier) :
      Effect world (some (.wait (scene.contextHost context) id participants))
        ({ world with barrier := barrier }.setPhase context .running)
  | arrived (context id participants : Nat) (barrier : BarrierWorld cluster)
      (phase : world.phase context = .releasing (some (id, participants)) [])
      (performed : world.barrier.next (.wait (scene.contextHost context) id participants) =
        some barrier)
      (counted : barrier.calls.length = world.barrier.calls.length + 1) :
      Effect world (some (.wait (scene.contextHost context) id participants))
        ({ world with
          barrier := barrier
          arrivals := Function.update world.arrivals world.barrier.calls.length
            (some ⟨context, world.history context⟩) }.setPhase context
          (.waiting world.barrier.calls.length))
  | started (context : Nat) (barrier : Option (Nat × Nat)) (staged : StagedWrite scene)
      (rest : List (StagedWrite scene)) (config : CoherenceConfig cluster)
      (phase : world.phase context = .releasing barrier (staged :: rest))
      (performed : (world.objects staged.object).step (scene.geometry staged.object)
        (.startCommit (scene.contextHost context) staged.buffer staged.blocks) = some config) :
      Effect world none
        ((world.setObject staged.object config).setPhase context
          (.committing barrier staged 0 rest))
  | finished (context : Nat) (barrier : Option (Nat × Nat)) (staged : StagedWrite scene)
      (stored : Nat) (rest : List (StagedWrite scene)) (produced : List (Nat × Nat))
      (config : CoherenceConfig cluster)
      (phase : world.phase context = .committing barrier staged stored rest)
      (done : (world.objects staged.object).finished (scene.contextHost context) staged.buffer =
        some produced)
      (performed : (world.objects staged.object).step (scene.geometry staged.object)
        (.commit (scene.contextHost context)) = some config) :
      Effect world none
        (((world.setObject staged.object config).recordCommit
          ⟨context, staged, produced⟩).setPhase context (.releasing barrier rest))
  | committed (context : Nat) (barrier : Option (Nat × Nat)) (staged : StagedWrite scene)
      (stored : Nat) (rest : List (StagedWrite scene)) (op : CoherenceOp cluster) (later : Nat)
      (config : CoherenceConfig cluster)
      (phase : world.phase context = .committing barrier staged stored rest)
      (chosen : (world.objects staged.object).commitOp (scene.geometry staged.object)
        (scene.contextHost context) staged.buffer staged.write stored = some (op, later))
      (performed : (world.objects staged.object).step (scene.geometry staged.object) op =
        some config) :
      Effect world none
        ((world.setObject staged.object config).setPhase context
          (.committing barrier staged later rest))
  | awakened (context call : Nat) (status : Status) (barrier : BarrierWorld cluster)
      (phase : world.phase context = .waiting call)
      (performed : world.barrier.step (.awake call) = some (status, barrier)) :
      Effect world (some (.awake call))
        ({ world with barrier := barrier }.setPhase context
          (if status.isOk then .acquiring call else .running))
  | returned (context call : Nat) (passed : PublicationWorld scene)
      (phase : world.phase context = .acquiring call)
      (boundary : world.acquire (scene.contextHost context) = some passed) :
      Effect world none ((passed.recordReturn context call).setPhase context .running)
  | acquired (host : cluster.Host) (passed : PublicationWorld scene)
      (boundary : world.acquire host = some passed) : Effect world none passed
  | accessed (object : Fin scene.objectCount) (op : CoherenceOp cluster)
      (config : CoherenceConfig cluster)
      (foreign : ∀ buffer ∈ (world.objects object).actor op, world.owner object buffer = none)
      (performed : (world.objects object).step (scene.geometry object) op = some config) :
      Effect world none (world.setObject object config)
  | managed (op : BarrierOp cluster) (barrier : BarrierWorld cluster)
      (performed : world.barrier.next op = some barrier)
      (calls : barrier.calls = world.barrier.calls) :
      Effect world (some op) { world with barrier := barrier }

section Effects

variable {world after : PublicationWorld scene}

theorem arrive_effect {context id participants : Nat}
    (phase : world.phase context = .releasing (some (id, participants)) [])
    (taken : world.arrive context id participants = some after) :
    Effect world (some (.wait (scene.contextHost context) id participants)) after := by
  simp only [arrive] at taken
  obtain ⟨barrier, performed, same⟩ := Option.map_eq_some_iff.mp taken
  split at same
  · cases same
    exact .turnedAway context id participants barrier phase performed
  · rename_i generation counted
    cases same
    refine .arrived context id participants barrier phase performed ?_
    obtain ⟨⟨status, reached⟩, waits, same⟩ := Option.map_eq_some_iff.mp performed
    obtain rfl : reached = barrier := same
    simp only [BarrierWorld.step, counted] at waits
    cases waits
    simp

theorem advance_effect {context : Nat} (taken : world.advance context = some after) :
    Effect world (world.barrierOp (.advance context)) after := by
  simp only [advance] at taken
  simp only [barrierOp]
  split at taken
  · simp at taken
  · rename_i phase
    cases taken
    simp only [phase]
    exact .released context phase
  · rename_i id participants phase
    simp only [phase]
    exact arrive_effect phase taken
  · rename_i barrier staged rest phase
    simp only [phase]
    obtain ⟨config, started, same⟩ := Option.map_eq_some_iff.mp taken
    obtain ⟨-, performed⟩ := Option.ite_none_right_eq_some.mp started
    cases same
    exact .started context barrier staged rest config phase performed
  · rename_i barrier staged stored rest phase
    simp only [phase]
    split at taken
    · rename_i produced done
      obtain ⟨config, performed, same⟩ := Option.map_eq_some_iff.mp taken
      cases same
      exact .finished context barrier staged stored rest produced config phase done performed
    · obtain ⟨⟨op, later⟩, chosen, next⟩ := Option.bind_eq_some_iff.mp taken
      obtain ⟨config, performed, same⟩ := Option.map_eq_some_iff.mp next
      cases same
      exact .committed context barrier staged stored rest op later config phase chosen performed
  · rename_i call phase
    simp only [phase]
    obtain ⟨⟨status, barrier⟩, performed, same⟩ := Option.map_eq_some_iff.mp taken
    cases same
    exact .awakened context call status barrier phase performed
  · rename_i call phase
    simp only [phase]
    obtain ⟨passed, boundary, same⟩ := Option.map_eq_some_iff.mp taken
    cases same
    exact .returned context call passed phase boundary

theorem step_effect {op : PublicationOp scene} (taken : world.step op = some after) :
    Effect world (world.barrierOp op) after := by
  cases op with
  | stageWriteBuffer context staged =>
      obtain ⟨⟨running, free, -⟩, same⟩ := Option.ite_none_right_eq_some.mp taken
      cases same
      exact .staged context staged running free
  | barrier context id participants =>
      obtain ⟨running, next⟩ := Option.ite_none_right_eq_some.mp taken
      split at next
      · cases next
        exact .refused
      · cases next
        exact .taken context _ running
  | synchronizeRelease context =>
      obtain ⟨running, same⟩ := Option.ite_none_right_eq_some.mp taken
      cases same
      exact .taken context none running
  | advance context => exact advance_effect taken
  | synchronizeAcquire host => exact .acquired host after taken
  | access object op =>
      simp only [step] at taken
      split at taken
      · simp at taken
      · obtain ⟨foreign, next⟩ := Option.ite_none_right_eq_some.mp taken
        obtain ⟨config, performed, same⟩ := Option.map_eq_some_iff.mp next
        cases same
        exact .accessed object op config foreign performed
  | manage op =>
      simp only [step] at taken
      split at taken
      · simp at taken
      · simp at taken
      · rename_i notWait notAwake
        obtain ⟨barrier, performed, same⟩ := Option.map_eq_some_iff.mp taken
        cases same
        refine .managed op barrier performed ?_
        obtain ⟨⟨status, reached⟩, moved, same⟩ := Option.map_eq_some_iff.mp performed
        obtain rfl : reached = barrier := same
        rcases BarrierWorld.step_calls moved with ⟨calls, -⟩ | ⟨host, other, count, rfl, -⟩
        · exact calls
        · exact (notWait host other count rfl).elim

theorem acquire_objects {host : cluster.Host} (boundary : world.acquire host = some after) :
    after = { world with objects := after.objects } ∧
      ∀ object, (world.objects object).step (scene.geometry object) (.synchronizeAcquire host) =
        some (after.objects object) := by
  obtain ⟨idle, same⟩ := Option.ite_none_right_eq_some.mp boundary
  cases same
  refine ⟨rfl, fun object => ?_⟩
  simp [CoherenceConfig.step, idle object]

theorem acquire_event {geometry : ObjectGeometry} {config later : CoherenceConfig cluster}
    {host : cluster.Host} (taken : config.step geometry (.synchronizeAcquire host) = some later) :
    later.events = config.events ++
      [.acquired host fun block => (config.blocks block).version] := by
  obtain ⟨-, same⟩ := Option.ite_none_right_eq_some.mp taken
  cases same
  rfl

theorem setObject_objects (world : PublicationWorld scene) {object : Fin scene.objectCount}
    {op : CoherenceOp cluster} {config : CoherenceConfig cluster}
    (performed : (world.objects object).step (scene.geometry object) op = some config)
    (other : Fin scene.objectCount) :
    (world.setObject object config).objects other = world.objects other ∨
      ∃ op, (world.objects other).step (scene.geometry other) op =
        some ((world.setObject object config).objects other) := by
  by_cases same : other = object
  · subst same
    refine .inr ⟨op, ?_⟩
    simpa [setObject] using performed
  · exact .inl (Function.update_of_ne same ..)

theorem effect_objects {performed : Option (BarrierOp cluster)}
    (effect : Effect world performed after) (object : Fin scene.objectCount) :
    after.objects object = world.objects object ∨
      ∃ op, (world.objects object).step (scene.geometry object) op =
        some (after.objects object) := by
  cases effect with
  | staged | refused | taken | released | turnedAway | arrived | awakened | managed =>
      exact .inl rfl
  | started context barrier staged rest config phase performed =>
      exact world.setObject_objects performed object
  | finished context barrier staged stored rest produced config phase done performed
  | committed context barrier staged stored rest op later config phase chosen performed =>
      exact world.setObject_objects performed object
  | returned context call passed phase boundary =>
      exact .inr ⟨_, (acquire_objects boundary).2 object⟩
  | acquired host passed boundary => exact .inr ⟨_, (acquire_objects boundary).2 object⟩
  | accessed other op config foreign performed => exact world.setObject_objects performed object

/-- The barrier managers perform the action that the effect names. -/
theorem effect_barrier {performed : Option (BarrierOp cluster)}
    (effect : Effect world performed after) :
    (performed = none ∧ after.barrier = world.barrier) ∨
      ∃ op, performed = some op ∧ world.barrier.next op = some after.barrier := by
  cases effect with
  | staged | refused | taken | released | started | finished | committed | accessed =>
      exact .inl ⟨rfl, rfl⟩
  | turnedAway context id participants barrier phase performed
  | arrived context id participants barrier phase performed counted =>
      exact .inr ⟨_, rfl, performed⟩
  | awakened context call status barrier phase performed =>
      refine .inr ⟨_, rfl, ?_⟩
      rw [BarrierWorld.next, performed]
      rfl
  | returned context call passed phase boundary =>
      refine .inl ⟨rfl, ?_⟩
      change passed.barrier = world.barrier
      rw [(acquire_objects boundary).1]
  | acquired host passed boundary =>
      refine .inl ⟨rfl, ?_⟩
      rw [(acquire_objects boundary).1]
  | managed op barrier performed calls => exact .inr ⟨op, rfl, performed⟩

theorem effect_evolves {performed : Option (BarrierOp cluster)}
    (effect : Effect world performed after) (object : Fin scene.objectCount) :
    (world.objects object).Evolves (after.objects object) := by
  rcases effect_objects effect object with same | ⟨op, taken⟩
  · rw [same]
    exact .of_eq rfl rfl rfl
  · exact CoherenceConfig.effect_evolves (CoherenceConfig.step_effect taken)

end Effects

/-! ## Every staged write is pending or committed -/

def commitsOf (world : PublicationWorld scene) (context : Nat) : List (StagedCommit scene) :=
  world.commits.filter fun commit => commit.context = context

def accounted (world : PublicationWorld scene) (context : Nat) : List (StagedWrite scene) :=
  world.staged context ++ (world.phase context).writes ++
    (world.commitsOf context).map StagedCommit.staged

/-- The owners of the staged buffers. -/
structure OwnerInv (world : PublicationWorld scene) : Prop where
  /-- Every staged write is pending or was committed, once. -/
  accounted : ∀ context, (world.accounted context).Perm (world.history context)
  emptied : ∀ context, world.phase context ≠ .running → world.staged context = []
  owned : ∀ context, ∀ staged ∈ world.history context,
    world.owner staged.object staged.buffer = some context
  distinct : ∀ context, ((world.history context).map fun staged =>
    (staged.object, staged.buffer)).Nodup

section Owners

variable {world after : PublicationWorld scene}

theorem OwnerInv.pending (inv : OwnerInv world) {context : Nat} {staged : StagedWrite scene}
    (member : staged ∈ (world.phase context).writes) :
    world.owner staged.object staged.buffer = some context := by
  apply inv.owned context
  apply (inv.accounted context).mem_iff.mp
  exact List.mem_append_left _ (List.mem_append_right _ member)

/-- Two contexts never commit the same buffer. -/
theorem OwnerInv.apart (inv : OwnerInv world) {context other : Nat} (different : other ≠ context)
    {staged write : StagedWrite scene} (member : staged ∈ (world.phase context).writes)
    (another : write ∈ (world.phase other).writes) (sameObject : staged.object = write.object) :
    write.buffer ≠ staged.buffer := by
  intro sameBuffer
  have first := inv.pending member
  have second := inv.pending another
  rw [← sameObject, sameBuffer, first] at second
  exact different (Option.some.inj second).symm

theorem OwnerInv.moves (inv : OwnerInv world) (context : Nat) (phase : ParticipantPhase scene)
    (phases : after.phase = Function.update world.phase context phase)
    (writes : phase.writes = (world.phase context).writes)
    (busy : world.phase context ≠ .running) (staged : after.staged = world.staged)
    (owner : after.owner = world.owner) (history : after.history = world.history)
    (commits : after.commits = world.commits) : OwnerInv after := by
  constructor
  case accounted =>
    intro other
    have same : (after.phase other).writes = (world.phase other).writes := by
      rw [phases]
      by_cases here : other = context
      · subst here
        rw [Function.update_self, writes]
      · rw [Function.update_of_ne here]
    rw [PublicationWorld.accounted, commitsOf, staged, same, commits, history]
    exact inv.accounted other
  case emptied =>
    intro other running
    rw [staged]
    by_cases here : other = context
    · subst here
      exact inv.emptied other busy
    · rw [phases, Function.update_of_ne here] at running
      exact inv.emptied other running
  case owned =>
    rw [owner, history]
    exact inv.owned
  case distinct =>
    rw [history]
    exact inv.distinct

/-- Only objects, managers and records change. -/
theorem OwnerInv.frame (inv : OwnerInv world) (phases : after.phase = world.phase)
    (staged : after.staged = world.staged) (owner : after.owner = world.owner)
    (history : after.history = world.history) (commits : after.commits = world.commits) :
    OwnerInv after := by
  constructor
  case accounted =>
    intro context
    rw [PublicationWorld.accounted, commitsOf, staged, phases, commits, history]
    exact inv.accounted context
  case emptied =>
    rw [phases, staged]
    exact inv.emptied
  case owned =>
    rw [owner, history]
    exact inv.owned
  case distinct =>
    rw [history]
    exact inv.distinct

theorem OwnerInv.stages (inv : OwnerInv world) {context : Nat} {staged : StagedWrite scene}
    (running : world.phase context = .running)
    (free : world.owner staged.object staged.buffer = none) :
    OwnerInv { world with
      staged := Function.update world.staged context (world.staged context ++ [staged])
      owner := Function.update world.owner staged.object
        (Function.update (world.owner staged.object) staged.buffer (some context))
      history := Function.update world.history context (world.history context ++ [staged]) } := by
  have fresh : ∀ other, ∀ earlier ∈ world.history other,
      (earlier.object, earlier.buffer) ≠ (staged.object, staged.buffer) := by
    intro other earlier member same
    have owner := inv.owned other earlier member
    rw [(Prod.mk.inj same).1, (Prod.mk.inj same).2, free] at owner
    cases owner
  constructor
  case accounted =>
    intro other
    have before := inv.accounted other
    by_cases here : other = context
    · subst here
      simp only [PublicationWorld.accounted, commitsOf, Function.update_self, running,
        ParticipantPhase.writes, List.append_nil, List.append_assoc] at before ⊢
      refine (List.perm_append_comm.append_left _).trans ?_
      rw [← List.append_assoc]
      exact before.append_right _
    · simp only [PublicationWorld.accounted, commitsOf, Function.update_of_ne here] at before ⊢
      exact before
  case emptied =>
    intro other busy
    have different : other ≠ context := by
      rintro rfl
      exact busy running
    simp only [Function.update_of_ne different]
    exact inv.emptied other busy
  case owned =>
    intro other write member
    have earlier : ∀ write ∈ world.history other,
        Function.update world.owner staged.object
          (Function.update (world.owner staged.object) staged.buffer (some context))
          write.object write.buffer = some other := by
      intro write member
      have different := fresh other write member
      have owner := inv.owned other write member
      by_cases sameObject : write.object = staged.object
      · have sameBuffer : write.buffer ≠ staged.buffer := by
          intro same
          exact different (Prod.ext sameObject same)
        rw [sameObject] at owner ⊢
        rw [Function.update_self, Function.update_of_ne sameBuffer]
        exact owner
      · rw [Function.update_of_ne sameObject]
        exact owner
    by_cases here : other = context
    · subst here
      simp only [Function.update_self] at member
      rcases List.mem_append.mp member with old | new
      · exact earlier write old
      · rw [List.mem_singleton.mp new]
        simp only [Function.update_self]
    · simp only [Function.update_of_ne here] at member
      exact earlier write member
  case distinct =>
    intro other
    by_cases here : other = context
    · subst here
      simp only [Function.update_self, List.map_append, List.map_singleton]
      refine (inv.distinct other).append (List.nodup_singleton _) ?_
      intro key member new
      obtain ⟨write, old, rfl⟩ := List.mem_map.mp member
      exact fresh other write old (List.mem_singleton.mp new)
    · simp only [Function.update_of_ne here]
      exact inv.distinct other

theorem OwnerInv.takes (inv : OwnerInv world) {context : Nat} (barrier : Option (Nat × Nat))
    (running : world.phase context = .running) :
    OwnerInv (world.takeStaged context barrier) := by
  constructor
  case accounted =>
    intro other
    have before := inv.accounted other
    by_cases here : other = context
    · subst here
      simp only [PublicationWorld.accounted, commitsOf, takeStaged, setPhase, Function.update_self,
        running, ParticipantPhase.writes, List.append_nil, List.nil_append] at before ⊢
      exact before
    · simp only [PublicationWorld.accounted, commitsOf, takeStaged, setPhase,
        Function.update_of_ne here] at before ⊢
      exact before
  case emptied =>
    intro other busy
    by_cases here : other = context
    · subst here
      exact Function.update_self ..
    · simp only [takeStaged, setPhase, Function.update_of_ne here] at busy ⊢
      exact inv.emptied other busy
  case owned => exact inv.owned
  case distinct => exact inv.distinct

theorem OwnerInv.finishes (inv : OwnerInv world) {context stored : Nat}
    {barrier : Option (Nat × Nat)} {staged : StagedWrite scene} {rest : List (StagedWrite scene)}
    (phase : world.phase context = .committing barrier staged stored rest)
    (produced : List (Nat × Nat)) (config : CoherenceConfig cluster) :
    OwnerInv (((world.setObject staged.object config).recordCommit
      ⟨context, staged, produced⟩).setPhase context (.releasing barrier rest)) := by
  constructor
  case accounted =>
    intro other
    have before := inv.accounted other
    by_cases here : other = context
    · subst here
      have emptied := inv.emptied other (by simp [phase])
      simp only [PublicationWorld.accounted, commitsOf, setPhase, recordCommit, setObject,
        Function.update_self, ParticipantPhase.writes, phase, emptied, List.nil_append,
        List.filter_append, List.map_append, List.filter_cons_of_pos, decide_true,
        List.filter_nil, List.map_cons, List.map_nil] at before ⊢
      refine List.Perm.trans ?_ before
      rw [← List.append_assoc, List.cons_append]
      exact List.perm_append_singleton ..
    · have elsewhere : ¬context = other := fun same => here same.symm
      simp only [PublicationWorld.accounted, commitsOf, setPhase, recordCommit, setObject,
        Function.update_of_ne here, List.filter_append, List.map_append] at before ⊢
      rw [List.filter_cons_of_neg (by simpa using elsewhere)]
      simpa using before
  case emptied =>
    intro other busy
    by_cases here : other = context
    · subst here
      exact inv.emptied other (by simp [phase])
    · simp only [setPhase, Function.update_of_ne here] at busy
      exact inv.emptied other busy
  case owned => exact inv.owned
  case distinct => exact inv.distinct

theorem OwnerInv.acquires (inv : OwnerInv world) {host : cluster.Host}
    (boundary : world.acquire host = some after) : OwnerInv after := by
  have same := (acquire_objects boundary).1
  refine inv.frame ?_ ?_ ?_ ?_ ?_ <;> rw [same]

/-- Every action keeps the accounts. -/
theorem effect_owners (inv : OwnerInv world) {performed : Option (BarrierOp cluster)}
    (effect : Effect world performed after) : OwnerInv after := by
  cases effect with
  | staged context staged running free => exact inv.stages running free
  | refused => exact inv
  | taken context barrier running => exact inv.takes barrier running
  | released context phase | turnedAway context id participants barrier phase performed =>
      exact inv.moves context _ rfl (by rw [phase]; rfl) (by simp [phase]) rfl rfl rfl rfl
  | arrived context id participants barrier phase performed counted
  | started context barrier staged rest config phase performed =>
      exact inv.moves context _ rfl (by rw [phase]; rfl) (by simp [phase]) rfl rfl rfl rfl
  | finished context barrier staged stored rest produced config phase done performed =>
      exact inv.finishes phase produced config
  | committed context barrier staged stored rest op later config phase chosen performed =>
      exact inv.moves context _ rfl (by rw [phase]; rfl) (by simp [phase]) rfl rfl rfl rfl
  | awakened context call status barrier phase performed =>
      refine inv.moves context _ rfl ?_ (by simp [phase]) rfl rfl rfl rfl
      rw [phase]
      split <;> rfl
  | returned context call passed phase boundary =>
      have acquiring : passed.phase context = .acquiring call := by
        rw [(acquire_objects boundary).1]
        exact phase
      exact (inv.acquires boundary).moves context _ rfl (by rw [acquiring]; rfl)
        (by simp [acquiring]) rfl rfl rfl rfl
  | acquired host passed boundary => exact inv.acquires boundary
  | accessed object op config foreign performed
  | managed op barrier performed calls => exact inv.frame rfl rfl rfl rfl rfl

end Owners

/-! ## Running commits -/

/-- Every running commit has stored and published the bytes of its buffer so far. -/
def ProgressInv (world : PublicationWorld scene) : Prop :=
  ∀ context barrier staged stored rest,
    world.phase context = .committing barrier staged stored rest →
    ∃ process, CoherenceConfig.CommitProgress (scene.geometry staged.object)
      (world.objects staged.object) (scene.contextHost context) staged.buffer staged.write stored
      process

section Progress

variable {world after : PublicationWorld scene}

/-- An action on one object leaves the buffers alone for which it is not performed. -/
theorem setObject_frames (world : PublicationWorld scene) {object other : Fin scene.objectCount}
    {op : CoherenceOp cluster} {config : CoherenceConfig cluster} {buffer : Nat}
    (performed : (world.objects object).step (scene.geometry object) op = some config)
    (apart : other = object → (world.objects object).actor op ≠ some buffer) :
    (world.objects other).Frames ((world.setObject object config).objects other) buffer := by
  by_cases same : other = object
  · subst same
    simp only [setObject, Function.update_self]
    exact CoherenceConfig.step_frames (apart rfl) performed
  · simp only [setObject, Function.update_of_ne same]
    exact .of_eq rfl rfl rfl rfl

/-- The commits of all contexts but one go on undisturbed. -/
theorem ProgressInv.frame (inv : ProgressInv world) (mover : Nat)
    (phases : ∀ context, context ≠ mover → after.phase context = world.phase context)
    (evolves : ∀ object, (world.objects object).Evolves (after.objects object))
    (frames : ∀ context, context ≠ mover → ∀ staged ∈ (world.phase context).writes,
      (world.objects staged.object).Frames (after.objects staged.object) staged.buffer)
    (moved : ∀ barrier staged stored rest,
      after.phase mover = .committing barrier staged stored rest →
      ∃ process, CoherenceConfig.CommitProgress (scene.geometry staged.object)
        (after.objects staged.object) (scene.contextHost mover) staged.buffer staged.write stored
        process) : ProgressInv after := by
  intro context barrier staged stored rest phase
  by_cases here : context = mover
  · subst here
    exact moved barrier staged stored rest phase
  · rw [phases context here] at phase
    obtain ⟨process, progress⟩ := inv context barrier staged stored rest phase
    refine ⟨process, progress.frame (frames context here staged ?_) (evolves staged.object)⟩
    rw [phase]
    exact List.mem_cons_self

/-- A context goes on to a phase without a commit. -/
theorem ProgressInv.moves (inv : ProgressInv world) (context : Nat)
    (phase : ParticipantPhase scene)
    (phases : after.phase = Function.update world.phase context phase)
    (objects : after.objects = world.objects)
    (elsewhere : ∀ barrier staged stored rest, phase ≠ .committing barrier staged stored rest) :
    ProgressInv after := by
  refine inv.frame context ?_ ?_ ?_ ?_
  · intro other different
    rw [phases, Function.update_of_ne different]
  · intro object
    rw [objects]
    exact .of_eq rfl rfl rfl
  · intro other _ staged _
    rw [objects]
    exact .of_eq rfl rfl rfl rfl
  · intro barrier staged stored rest committing
    rw [phases, Function.update_self] at committing
    exact (elsewhere _ _ _ _ committing).elim

/-- A boundary does not concern commits. -/
theorem ProgressInv.acquires (inv : ProgressInv world) {host : cluster.Host}
    (boundary : world.acquire host = some after) : ProgressInv after := by
  obtain ⟨same, performed⟩ := acquire_objects boundary
  intro context barrier staged stored rest phase
  have committing : world.phase context = .committing barrier staged stored rest := by
    rw [same] at phase
    exact phase
  obtain ⟨process, progress⟩ := inv context barrier staged stored rest committing
  have acquired := performed staged.object
  exact ⟨process,
    progress.frame (CoherenceConfig.step_frames (by simp [CoherenceConfig.actor]) acquired)
    (CoherenceConfig.effect_evolves (CoherenceConfig.step_effect acquired))⟩

theorem ProgressInv.commits (inv : ProgressInv world) (owners : OwnerInv world) {context : Nat}
    {staged : StagedWrite scene} (member : staged ∈ (world.phase context).writes)
    {op : CoherenceOp cluster} {config : CoherenceConfig cluster}
    (performed : (world.objects staged.object).step (scene.geometry staged.object) op = some config)
    (actor : (world.objects staged.object).actor op = some staged.buffer)
    {phase : ParticipantPhase scene}
    (phases : after.phase = Function.update world.phase context phase)
    (objects : after.objects = (world.setObject staged.object config).objects)
    (moved : ∀ barrier write stored rest, phase = .committing barrier write stored rest →
      ∃ process, CoherenceConfig.CommitProgress (scene.geometry write.object)
        (after.objects write.object) (scene.contextHost context) write.buffer write.write stored
        process) : ProgressInv after := by
  refine inv.frame context ?_ ?_ ?_ ?_
  · intro other different
    rw [phases, Function.update_of_ne different]
  · intro object
    rw [objects]
    rcases world.setObject_objects performed object with same | ⟨action, taken⟩
    · rw [same]
      exact .of_eq rfl rfl rfl
    · exact CoherenceConfig.effect_evolves (CoherenceConfig.step_effect taken)
  · intro other different write another
    rw [objects]
    apply world.setObject_frames performed
    intro sameObject
    rw [actor]
    exact fun sameBuffer => owners.apart different member another sameObject.symm
      (Option.some.inj sameBuffer).symm
  · intro barrier write stored rest committing
    rw [phases, Function.update_self] at committing
    exact moved barrier write stored rest committing

/-- Every action keeps the progress of all commits. -/
theorem effect_progress (inv : ProgressInv world) (owners : OwnerInv world)
    (stable : ∀ object, CoherenceConfig.StableInv (scene.geometry object) (world.objects object))
    {performed : Option (BarrierOp cluster)} (effect : Effect world performed after) :
    ProgressInv after := by
  cases effect with
  | staged | refused | managed => exact inv
  | taken context barrier running
  | released context phase => exact inv.moves context _ rfl rfl (by simp)
  | turnedAway context id participants barrier phase performed
  | arrived context id participants barrier phase performed counted =>
      exact inv.moves context _ rfl rfl (by simp)
  | started context barrier staged rest config phase performed =>
      refine inv.commits owners (by rw [phase]; exact List.mem_cons_self) performed rfl rfl rfl ?_
      intro barrier write stored rest same
      cases same
      simp only [setPhase, setObject, Function.update_self]
      exact ⟨_, CoherenceConfig.commitProgress_start performed⟩
  | finished context barrier staged stored rest produced config phase done performed =>
      refine inv.commits owners (by rw [phase]; exact List.mem_cons_self) performed
        (CoherenceConfig.actor_finished done) rfl rfl ?_
      intro barrier write stored rest same
      cases same
  | committed context barrier staged stored rest op later config phase chosen performed =>
      refine inv.commits owners (by rw [phase]; exact List.mem_cons_self) performed
        (CoherenceConfig.actor_commitOp chosen) rfl rfl ?_
      intro barrier write stored rest same
      cases same
      obtain ⟨process, progress⟩ := inv context _ _ _ _ phase
      simp only [setPhase, setObject, Function.update_self]
      exact progress.next (stable _) chosen performed
  | awakened context call status barrier phase performed =>
      refine inv.moves context _ rfl rfl ?_
      intro _ _ _ _
      split <;> simp
  | returned context call passed phase boundary =>
      exact (inv.acquires boundary).moves context _ rfl rfl (by simp)
  | acquired host passed boundary => exact inv.acquires boundary
  | accessed object op config foreign performed =>
      intro context barrier staged stored rest phase
      have committing : world.phase context = .committing barrier staged stored rest := phase
      obtain ⟨process, progress⟩ := inv context barrier staged stored rest committing
      have member : staged ∈ (world.phase context).writes := by
        rw [committing]
        exact List.mem_cons_self
      have owner := owners.pending member
      refine ⟨process, progress.frame (world.setObject_frames performed ?_) ?_⟩
      · intro sameObject acts
        have unowned := foreign staged.buffer acts
        rw [← sameObject, owner] at unowned
        cases unowned
      · exact effect_evolves (.accessed object op config foreign performed) staged.object

end Progress

/-! ## What the records say -/

/-- Every recorded commit has published the bytes of its write. -/
def CommitsInv (world : PublicationWorld scene) : Prop :=
  ∀ commit ∈ world.commits, commit.produced.map Prod.fst = commit.staged.blocks ∧
    ∀ block version, (block, version) ∈ commit.produced →
      (world.objects commit.staged.object).Publishes (scene.geometry commit.staged.object)
        commit.staged.write block version

/-- The counted calls and the returned ones. -/
structure CallInv (world : PublicationWorld scene) : Prop where
  /-- A call is counted after everything that its context had staged was committed. -/
  arrivals : ∀ call arrival, world.arrivals call = some arrival →
    call < world.barrier.calls.length ∧
      ∀ staged ∈ arrival.staged, ∃ produced, ⟨arrival.context, staged, produced⟩ ∈ world.commits
  /-- A boundary is passed after the call was released. -/
  acquiring : ∀ context call, world.phase context = .acquiring call →
    world.barrier.results call = some .ok
  returns : ∀ ret ∈ world.returns, world.barrier.results ret.call = some .ok

/-- The boundary of a returned call came after a version of a block was committed. -/
def Acquired (world : PublicationWorld scene) (ret : BarrierReturn scene)
    (object : Fin scene.objectCount) (block version : Nat) : Prop :=
  ∃ index committed, index < ret.observed object ∧
    (world.objects object).events[index]? =
      some (.acquired (scene.contextHost ret.context) committed) ∧ version ≤ committed block

/-- The boundary of a returned call came after the commits of all calls of its round. -/
def VisibleInv (participants : cluster.Host → Nat) (id : Nat) (world : PublicationWorld scene) :
    Prop :=
  ∀ ret ∈ world.returns, ∀ call arrival first second, world.arrivals call = some arrival →
    world.barrier.calls[call]? = some first → world.barrier.calls[ret.call]? = some second →
    first.id = id → second.id = id →
    BarrierWorld.round participants world.barrier.calls call =
      BarrierWorld.round participants world.barrier.calls ret.call →
    ∀ staged ∈ arrival.staged, ∃ produced,
      ⟨arrival.context, staged, produced⟩ ∈ world.commits ∧
      ∀ block version, (block, version) ∈ produced →
        world.Acquired ret staged.object block version

section Records

variable {world after : PublicationWorld scene} {participants : cluster.Host → Nat} {id : Nat}

theorem CommitsInv.extend (inv : CommitsInv world)
    (evolves : ∀ object, (world.objects object).Evolves (after.objects object)) :
    ∀ commit ∈ world.commits, commit.produced.map Prod.fst = commit.staged.blocks ∧
      ∀ block version, (block, version) ∈ commit.produced →
        (after.objects commit.staged.object).Publishes (scene.geometry commit.staged.object)
          commit.staged.write block version := by
  intro commit member
  obtain ⟨blocks, publishes⟩ := inv commit member
  exact ⟨blocks, fun block version produced =>
    (publishes block version produced).extend ((evolves _).published block)⟩

/-- Only a finished commit is recorded. -/
theorem effect_commits (inv : CommitsInv world) (progress : ProgressInv world)
    {performed : Option (BarrierOp cluster)} (effect : Effect world performed after) :
    CommitsInv after := by
  have extended := inv.extend (effect_evolves effect)
  cases effect with
  | finished context barrier staged stored rest produced config phase done performed =>
      intro commit member
      rcases List.mem_append.mp member with earlier | last
      · exact extended commit earlier
      · cases List.mem_singleton.mp last
        obtain ⟨process, running⟩ := progress context barrier staged stored rest phase
        obtain ⟨blocks, publishes⟩ := running.finish done
        refine ⟨blocks, fun block version produced => ?_⟩
        refine (publishes block version produced).extend ?_
        simp only [setPhase, recordCommit, setObject, Function.update_self]
        exact (CoherenceConfig.effect_evolves
          (CoherenceConfig.step_effect performed)).published block
  | returned context call passed phase boundary =>
      intro commit member
      have earlier : commit ∈ world.commits := by
        rw [(acquire_objects boundary).1] at member
        exact member
      exact extended commit earlier
  | acquired host passed boundary =>
      intro commit member
      rw [(acquire_objects boundary).1] at member
      exact extended commit member
  | staged | refused | taken | released | turnedAway | arrived | started | committed | awakened
  | accessed | managed => exact extended

/-- Recorded commits stay. -/
theorem effect_keeps_commits {performed : Option (BarrierOp cluster)}
    (effect : Effect world performed after) : ∀ commit ∈ world.commits, commit ∈ after.commits := by
  intro commit member
  cases effect with
  | finished => exact List.mem_append_left _ member
  | returned context call passed phase boundary =>
      change commit ∈ passed.commits
      rw [(acquire_objects boundary).1]
      exact member
  | acquired host passed boundary =>
      rw [(acquire_objects boundary).1]
      exact member
  | staged | refused | taken | released | turnedAway | arrived | started | committed | awakened
  | accessed | managed => exact member

/-- The managers count further calls and keep the returned ones. -/
theorem effect_calls {performed : Option (BarrierOp cluster)}
    (effect : Effect world performed after) :
    (∃ later, after.barrier.calls = world.barrier.calls ++ later) ∧
      ∀ position status, world.barrier.results position = some status →
        after.barrier.results position = some status := by
  rcases effect_barrier effect with ⟨-, same⟩ | ⟨op, -, performed⟩
  · rw [same]
    exact ⟨⟨[], (List.append_nil _).symm⟩, fun _ _ returned => returned⟩
  · obtain ⟨⟨status, reached⟩, taken, same⟩ := Option.map_eq_some_iff.mp performed
    obtain rfl : reached = after.barrier := same
    refine ⟨?_, fun position result returned => BarrierWorld.step_results taken returned⟩
    rcases BarrierWorld.step_calls taken with ⟨calls, -⟩ | ⟨host, other, count, -, -, calls⟩
    · exact ⟨[], by rw [calls, List.append_nil]⟩
    · exact ⟨_, calls⟩

/-- The calls that were recorded before an action. -/
theorem CallInv.extend (inv : CallInv world) {performed : Option (BarrierOp cluster)}
    (effect : Effect world performed after) :
    (∀ call arrival, world.arrivals call = some arrival →
      call < after.barrier.calls.length ∧ ∀ staged ∈ arrival.staged, ∃ produced,
        ⟨arrival.context, staged, produced⟩ ∈ after.commits) ∧
      (∀ context call, world.phase context = .acquiring call →
        after.barrier.results call = some .ok) ∧
      ∀ ret ∈ world.returns, after.barrier.results ret.call = some .ok := by
  obtain ⟨⟨later, calls⟩, results⟩ := effect_calls effect
  refine ⟨?_, ?_, ?_⟩
  · intro call arrival recorded
    obtain ⟨below, committed⟩ := inv.arrivals call arrival recorded
    refine ⟨?_, fun staged member => ?_⟩
    · rw [calls, List.length_append]
      omega
    · obtain ⟨produced, commit⟩ := committed staged member
      exact ⟨produced, effect_keeps_commits effect _ commit⟩
  · exact fun context call phase => results call _ (inv.acquiring context call phase)
  · exact fun ret member => results ret.call _ (inv.returns ret member)

/-- An action that records no call and releases none. -/
theorem CallInv.frame (inv : CallInv world) {performed : Option (BarrierOp cluster)}
    (effect : Effect world performed after) (arrivals : after.arrivals = world.arrivals)
    (returns : after.returns = world.returns)
    (phases : ∀ context call, after.phase context = .acquiring call →
      world.phase context = .acquiring call) : CallInv after := by
  obtain ⟨arrived, acquiring, returned⟩ := inv.extend effect
  refine ⟨?_, ?_, ?_⟩
  · rw [arrivals]
    exact arrived
  · exact fun context call phase => acquiring context call (phases context call phase)
  · rw [returns]
    exact returned

/-- A context goes on to a phase other than the boundary. -/
theorem acquiring_of_update {context : Nat} {phase : ParticipantPhase scene}
    (elsewhere : ∀ call, phase ≠ .acquiring call) :
    ∀ other call, Function.update world.phase context phase other = .acquiring call →
      world.phase other = .acquiring call := by
  intro other call acquiring
  by_cases here : other = context
  · subst here
    rw [Function.update_self] at acquiring
    exact (elsewhere call acquiring).elim
  · rwa [Function.update_of_ne here] at acquiring

/-- When a context arrives, everything that it has staged is committed. -/
theorem OwnerInv.settled (inv : OwnerInv world) {context : Nat} {barrier : Option (Nat × Nat)}
    (phase : world.phase context = .releasing barrier []) {staged : StagedWrite scene}
    (member : staged ∈ world.history context) :
    ∃ produced, ⟨context, staged, produced⟩ ∈ world.commits := by
  have accounted := (inv.accounted context).mem_iff.mpr member
  have emptied := inv.emptied context (by simp [phase])
  simp only [PublicationWorld.accounted, emptied, phase, ParticipantPhase.writes, List.nil_append,
    List.mem_map] at accounted
  obtain ⟨commit, filtered, rfl⟩ := accounted
  obtain ⟨recorded, same⟩ := List.mem_filter.mp filtered
  obtain rfl : commit.context = context := of_decide_eq_true same
  exact ⟨commit.produced, recorded⟩

/-- A call that is released without failure. -/
theorem awake_results {barrier later : BarrierWorld cluster} {call : Nat} {status : Status}
    (performed : barrier.step (.awake call) = some (status, later))
    (succeeded : status.isOk = true) : later.results call = some .ok := by
  simp only [BarrierWorld.step] at performed
  split at performed
  · obtain ⟨result, awakened, same⟩ := Option.map_eq_some_iff.mp performed
    cases same
    simp only [BarrierEntry.awake] at awakened
    split at awakened
    · cases awakened
      simp at succeeded
    · obtain ⟨-, same⟩ := Option.ite_none_right_eq_some.mp awakened
      cases same
      exact Function.update_self ..
  · simp at performed

/-- Every action keeps the records of the calls. -/
theorem effect_callInv (inv : CallInv world) (owners : OwnerInv world)
    {performed : Option (BarrierOp cluster)} (effect : Effect world performed after) :
    CallInv after := by
  cases effect with
  | staged context staged running free =>
      exact inv.frame (.staged context staged running free) rfl rfl (fun _ _ phase => phase)
  | refused => exact inv
  | taken context barrier running =>
      exact inv.frame (.taken context barrier running) rfl rfl (acquiring_of_update (by simp))
  | released context phase =>
      exact inv.frame (.released context phase) rfl rfl (acquiring_of_update (by simp))
  | turnedAway context id participants barrier phase performed =>
      exact inv.frame (.turnedAway context id participants barrier phase performed) rfl rfl
        (acquiring_of_update (by simp))
  | arrived context id participants barrier phase performed counted =>
      obtain ⟨arrived, acquiring, returned⟩ :=
        inv.extend (.arrived context id participants barrier phase performed counted)
      refine ⟨?_, ?_, returned⟩
      · intro call arrival recorded
        by_cases new : call = world.barrier.calls.length
        · subst new
          simp only [setPhase, Function.update_self, Option.some.injEq] at recorded
          subst recorded
          refine ⟨?_, fun staged member => owners.settled phase member⟩
          change _ < barrier.calls.length
          omega
        · simp only [setPhase, Function.update_of_ne new] at recorded
          exact arrived call arrival recorded
      · intro other call moved
        exact acquiring other call (acquiring_of_update (by simp) other call moved)
  | started context barrier staged rest config phase performed =>
      exact inv.frame (.started context barrier staged rest config phase performed) rfl rfl
        (acquiring_of_update (by simp))
  | finished context barrier staged stored rest produced config phase done performed =>
      exact inv.frame (.finished context barrier staged stored rest produced config phase done
        performed) rfl rfl (acquiring_of_update (by simp))
  | committed context barrier staged stored rest op later config phase chosen performed =>
      exact inv.frame (.committed context barrier staged stored rest op later config phase chosen
        performed) rfl rfl (acquiring_of_update (by simp))
  | awakened context call status barrier phase performed =>
      obtain ⟨arrived, acquiring, returned⟩ :=
        inv.extend (.awakened context call status barrier phase performed)
      refine ⟨arrived, ?_, returned⟩
      intro other position moved
      by_cases here : other = context
      · subst here
        simp only [setPhase, Function.update_self] at moved
        split at moved
        · rename_i succeeded
          cases moved
          exact awake_results performed succeeded
        · cases moved
      · simp only [setPhase, Function.update_of_ne here] at moved
        exact acquiring other position moved
  | returned context call passed phase boundary =>
      obtain ⟨arrived, acquiring, returned⟩ :=
        inv.extend (.returned context call passed phase boundary)
      have same := (acquire_objects boundary).1
      refine ⟨?_, ?_, ?_⟩
      · intro position arrival recorded
        apply arrived position arrival
        change passed.arrivals position = some arrival at recorded
        rw [same] at recorded
        exact recorded
      · intro other position moved
        apply acquiring other position
        have earlier : passed.phase other = .acquiring position :=
          acquiring_of_update (by simp) other position moved
        rw [same] at earlier
        exact earlier
      · intro ret member
        rcases List.mem_append.mp member with earlier | last
        · rw [same] at earlier
          exact returned ret earlier
        · cases List.mem_singleton.mp last
          exact acquiring context call phase
  | acquired host passed boundary =>
      have same := (acquire_objects boundary).1
      refine inv.frame (.acquired host _ boundary) ?_ ?_ ?_
      · rw [same]
      · rw [same]
      · intro context call phase
        rw [same] at phase
        exact phase
  | accessed object op config foreign performed =>
      exact inv.frame (.accessed object op config foreign performed) rfl rfl
        (fun _ _ phase => phase)
  | managed op barrier performed calls =>
      exact inv.frame (.managed op barrier performed calls) rfl rfl (fun _ _ phase => phase)

theorem Acquired.extend {ret : BarrierReturn scene} {object : Fin scene.objectCount}
    {block version : Nat} (acquired : world.Acquired ret object block version)
    (evolves : (world.objects object).Evolves (after.objects object)) :
    after.Acquired ret object block version := by
  obtain ⟨index, committed, below, present, reached⟩ := acquired
  obtain ⟨later, longer⟩ := evolves.events
  refine ⟨index, committed, below, ?_, reached⟩
  rw [← longer, List.getElem?_append_left (List.getElem?_eq_some_iff.mp present).1]
  exact present

/-- What was visible stays visible. -/
theorem VisibleInv.extend (inv : VisibleInv participants id world) (calls : CallInv world)
    (use : BarrierWorld.UseInv participants id world.barrier)
    {performed : Option (BarrierOp cluster)} (effect : Effect world performed after) :
    ∀ ret ∈ world.returns, ∀ call arrival first second, world.arrivals call = some arrival →
      after.barrier.calls[call]? = some first → after.barrier.calls[ret.call]? = some second →
      first.id = id → second.id = id →
      BarrierWorld.round participants after.barrier.calls call =
        BarrierWorld.round participants after.barrier.calls ret.call →
      ∀ staged ∈ arrival.staged, ∃ produced,
        ⟨arrival.context, staged, produced⟩ ∈ after.commits ∧
        ∀ block version, (block, version) ∈ produced →
          after.Acquired ret staged.object block version := by
  obtain ⟨⟨later, longer⟩, -⟩ := effect_calls effect
  intro ret member call arrival first second recorded called calledLater firstId secondId same
    staged before
  have below := (calls.arrivals call arrival recorded).1
  have returned : ret.call < world.barrier.calls.length := by
    by_contra beyond
    have result := calls.returns ret member
    rw [use.returned ret.call (Nat.le_of_not_lt beyond)] at result
    cases result
  rw [longer] at called calledLater same
  rw [List.getElem?_append_left below] at called
  rw [List.getElem?_append_left returned] at calledLater
  rw [BarrierWorld.round_append _ below, BarrierWorld.round_append _ returned] at same
  obtain ⟨produced, commit, acquired⟩ := inv ret member call arrival first second recorded called
    calledLater firstId secondId same staged before
  exact ⟨produced, effect_keeps_commits effect _ commit, fun block version made =>
    (acquired block version made).extend (effect_evolves effect staged.object)⟩

/-- An action that records no call. -/
theorem VisibleInv.frame (inv : VisibleInv participants id world) (calls : CallInv world)
    (use : BarrierWorld.UseInv participants id world.barrier)
    {performed : Option (BarrierOp cluster)} (effect : Effect world performed after)
    (arrivals : after.arrivals = world.arrivals) (returns : after.returns = world.returns) :
    VisibleInv participants id after := by
  have extended := inv.extend calls use effect
  rw [VisibleInv, arrivals, returns]
  exact extended

/-- A new call is of a later round than every returned one. -/
theorem VisibleInv.arrives (inv : VisibleInv participants id world) (calls : CallInv world)
    (use : BarrierWorld.UseInv participants id world.barrier) {rounds : cluster.Host → Nat}
    (rounded : BarrierWorld.RoundInv participants id world.barrier rounds)
    {context other count : Nat} {barrier : BarrierWorld cluster}
    (phase : world.phase context = .releasing (some (other, count)) [])
    (performed : world.barrier.next (.wait (scene.contextHost context) other count) = some barrier)
    (counted : barrier.calls.length = world.barrier.calls.length + 1)
    (correct : world.barrier.UsesCorrectly participants id
      (.wait (scene.contextHost context) other count)) :
    VisibleInv participants id
      ({ world with
        barrier := barrier
        arrivals := Function.update world.arrivals world.barrier.calls.length
          (some ⟨context, world.history context⟩) }.setPhase context
        (.waiting world.barrier.calls.length)) := by
  have extended := inv.extend calls use
    (.arrived context other count barrier phase performed counted)
  intro ret member call arrival first second recorded called calledLater firstId secondId same
  by_cases new : call = world.barrier.calls.length
  · exfalso
    subst new
    obtain ⟨⟨status, reached⟩, taken, identical⟩ := Option.map_eq_some_iff.mp performed
    obtain rfl : reached = barrier := identical
    rcases BarrierWorld.step_calls taken with ⟨unchanged, -⟩ |
      ⟨host, barrierId, participantCount, named, -, appended⟩
    · rw [unchanged] at counted
      omega
    · cases named
      have succeeded := calls.returns ret member
      have below : ret.call < world.barrier.calls.length := by
        by_contra beyond
        rw [use.returned ret.call (Nat.le_of_not_lt beyond)] at succeeded
        cases succeeded
      simp only [setPhase] at called calledLater same
      rw [appended] at called calledLater same
      rw [List.getElem?_append_left below] at calledLater
      rw [List.getElem?_concat_length] at called
      cases called
      obtain rfl : other = id := firstId
      obtain ⟨rfl, free⟩ := correct rfl
      have later := rounded.later use calledLater secondId succeeded (scene.contextHost context)
        (by omega)
      rw [BarrierWorld.round_new, BarrierWorld.round_append _ below] at same
      dsimp only at same
      omega
  · simp only [setPhase, Function.update_of_ne new] at recorded
    exact extended ret member call arrival first second recorded called calledLater firstId
      secondId same

/-- The boundary of a call that returns comes after everything that was committed. -/
theorem VisibleInv.returns (inv : VisibleInv participants id world) (calls : CallInv world)
    (use : BarrierWorld.UseInv participants id world.barrier) (commits : CommitsInv world)
    (stable : ∀ object, CoherenceConfig.StableInv (scene.geometry object) (world.objects object))
    {context call : Nat} {passed : PublicationWorld scene}
    (phase : world.phase context = .acquiring call)
    (boundary : world.acquire (scene.contextHost context) = some passed) :
    VisibleInv participants id ((passed.recordReturn context call).setPhase context .running) := by
  have effect : Effect world none ((passed.recordReturn context call).setPhase context .running) :=
    .returned context call passed phase boundary
  have extended := inv.extend calls use effect
  obtain ⟨same, performed⟩ := acquire_objects boundary
  intro ret member position arrival first second recorded called calledLater firstId secondId
    sameRound staged before
  have recordedBefore : world.arrivals position = some arrival := by
    change passed.arrivals position = some arrival at recorded
    rw [same] at recorded
    exact recorded
  rcases List.mem_append.mp member with earlier | last
  · rw [same] at earlier
    exact extended ret earlier position arrival first second recordedBefore called calledLater
      firstId secondId sameRound staged before
  · cases List.mem_singleton.mp last
    obtain ⟨produced, commit⟩ := (calls.arrivals position arrival recordedBefore).2 staged before
    refine ⟨produced, effect_keeps_commits effect _ commit, ?_⟩
    intro block version made
    obtain ⟨content, present, -⟩ := (commits _ commit).2 block version made
    have bound := (List.getElem?_eq_some_iff.mp present).1
    have events := acquire_event (performed staged.object)
    refine ⟨(world.objects staged.object).events.length,
      fun block => ((world.objects staged.object).blocks block).version, ?_, ?_, ?_⟩
    · change _ < (passed.objects staged.object).events.length
      rw [events]
      simp
    · change (passed.objects staged.object).events[_]? = _
      rw [events, List.getElem?_concat_length]
    · have length := ((stable staged.object).blocks block).length
      dsimp only at bound ⊢
      omega

/-- Every action of a correct use keeps what is visible. -/
theorem effect_visible (inv : VisibleInv participants id world) (calls : CallInv world)
    (use : BarrierWorld.UseInv participants id world.barrier) {rounds : cluster.Host → Nat}
    (rounded : BarrierWorld.RoundInv participants id world.barrier rounds)
    (commits : CommitsInv world)
    (stable : ∀ object, CoherenceConfig.StableInv (scene.geometry object) (world.objects object))
    {performed : Option (BarrierOp cluster)} (effect : Effect world performed after)
    (correct : ∀ op ∈ performed, world.barrier.UsesCorrectly participants id op) :
    VisibleInv participants id after := by
  cases effect with
  | arrived context other count barrier phase performed counted =>
      exact inv.arrives calls use rounded phase performed counted (correct _ rfl)
  | returned context call passed phase boundary =>
      exact inv.returns calls use commits stable phase boundary
  | acquired host passed boundary =>
      have same := (acquire_objects boundary).1
      refine inv.frame calls use (.acquired host _ boundary) ?_ ?_ <;> rw [same]
  | staged context staged running free =>
      exact inv.frame calls use (.staged context staged running free) rfl rfl
  | refused => exact inv
  | taken context barrier running =>
      exact inv.frame calls use (.taken context barrier running) rfl rfl
  | released context phase => exact inv.frame calls use (.released context phase) rfl rfl
  | turnedAway context other count barrier phase performed =>
      exact inv.frame calls use (.turnedAway context other count barrier phase performed) rfl rfl
  | started context barrier staged rest config phase performed =>
      exact inv.frame calls use (.started context barrier staged rest config phase performed) rfl
        rfl
  | finished context barrier staged stored rest produced config phase done performed =>
      exact inv.frame calls use (.finished context barrier staged stored rest produced config phase
        done performed) rfl rfl
  | committed context barrier staged stored rest op later config phase chosen performed =>
      exact inv.frame calls use (.committed context barrier staged stored rest op later config phase
        chosen performed) rfl rfl
  | awakened context call status barrier phase performed =>
      exact inv.frame calls use (.awakened context call status barrier phase performed) rfl rfl
  | accessed object op config foreign performed =>
      exact inv.frame calls use (.accessed object op config foreign performed) rfl rfl
  | managed op barrier performed unchanged =>
      exact inv.frame calls use (.managed op barrier performed unchanged) rfl rfl

end Records

/-! ## Runs -/

/-- The invariant of every correct use. -/
structure PublicationInv (participants : cluster.Host → Nat) (id : Nat)
    (world : PublicationWorld scene) : Prop where
  objects : ∀ object, CoherenceConfig.Reached (scene.geometry object) (scene.content object)
    (world.objects object)
  barrier : Run.ReachesBy BarrierWorld.next (BarrierWorld.UsesCorrectly participants id)
    (BarrierWorld.initial cluster) world.barrier
  /-- Staged buffers. -/
  owners : OwnerInv world
  /-- Running commits. -/
  progress : ProgressInv world
  commits : CommitsInv world
  calls : CallInv world
  /-- Boundaries of returned calls. -/
  visible : VisibleInv participants id world

section Runs

variable {world after : PublicationWorld scene} {participants : cluster.Host → Nat} {id : Nat}

theorem initial_publication (scene : BarrierScene cluster) (participants : cluster.Host → Nat)
    (id : Nat) : PublicationInv participants id (initial scene) where
  objects := fun _ => .refl
  barrier := .refl
  owners := by
    constructor <;> simp [initial, accounted, commitsOf, ParticipantPhase.writes]
  progress := by
    intro context barrier staged stored rest phase
    simp [initial] at phase
  commits := by simp [CommitsInv, initial]
  calls := by constructor <;> simp [initial]
  visible := by simp [VisibleInv, initial]

/-- Every run keeps the invariant. -/
theorem reached_publication
    (execution : Run.ReachesBy step (UsesCorrectly participants id) (initial scene) world) :
    PublicationInv participants id world := by
  refine execution.preserves (PublicationInv participants id)
    (initial_publication scene participants id) ?_
  intro before op after inv correct taken
  have effect := step_effect taken
  have stable := fun object => CoherenceConfig.reached_stable (inv.objects object)
  obtain ⟨use, rounds, rounded⟩ := BarrierWorld.reached_rounds inv.barrier
  constructor
  case objects =>
    intro object
    rcases effect_objects effect object with same | ⟨action, performed⟩
    · rw [same]
      exact inv.objects object
    · exact (inv.objects object).tail ⟨action, trivial, performed⟩
  case barrier =>
    rcases effect_barrier effect with ⟨-, same⟩ | ⟨action, named, performed⟩
    · rw [same]
      exact inv.barrier
    · exact inv.barrier.tail ⟨action, correct action named, performed⟩
  case owners => exact effect_owners inv.owners effect
  case progress => exact effect_progress inv.progress inv.owners stable effect
  case commits => exact effect_commits inv.commits inv.progress effect
  case calls => exact effect_callInv inv.calls inv.owners effect
  case visible =>
    exact effect_visible inv.visible inv.calls use rounded inv.commits stable effect correct

theorem OwnerInv.unique (inv : OwnerInv world) {context : Nat} {staged : StagedWrite scene}
    {produced other : List (Nat × Nat)} (member : ⟨context, staged, produced⟩ ∈ world.commits)
    (another : ⟨context, staged, other⟩ ∈ world.commits) : other = produced := by
  have kept : ∀ made, ⟨context, staged, made⟩ ∈ world.commits →
      ⟨context, staged, made⟩ ∈ world.commitsOf context :=
    fun made recorded => List.mem_filter.mpr ⟨recorded, by simp⟩
  have distinct : ((world.commitsOf context).map StagedCommit.staged).Nodup := by
    have whole := ((inv.accounted context).map fun staged =>
      (staged.object, staged.buffer)).nodup_iff.mpr (inv.distinct context)
    exact (List.nodup_append.mp whole.of_map).2.1
  exact congrArg StagedCommit.produced
    (List.inj_on_of_nodup_map distinct (kept other another) (kept produced member) rfl)

/-- A snapshot that reports the version of a commit holds the bytes that were committed. -/
theorem snapshot_bytes {geometry : ObjectGeometry} {config : CoherenceConfig cluster}
    (inv : CoherenceConfig.SnapshotInv geometry config) {write : WriteBuffer} {block version : Nat}
    (publishes : config.Publishes geometry write block version) {host : cluster.Host}
    {snapshot : ReadSnapshot} (returned : .readReturned host snapshot ∈ config.events)
    (reported : snapshot.reported block = some version) {position : Nat}
    (above : geometry.copyBegin write block ≤ position)
    (below : position < geometry.copyEnd write block) (starts : snapshot.offset ≤ position)
    (ends : position < snapshot.offset + snapshot.storage.length) :
    snapshot.storage[position - snapshot.offset]? = write.storage[position - write.offset]? := by
  obtain ⟨content, published, writes⟩ := publishes
  simp only [ObjectGeometry.copyEnd] at below
  have first : geometry.blockStart block ≤ position := (le_max_right _ _).trans above
  have start : write.offset ≤ position := (le_max_left _ _).trans above
  have here : position / geometry.coherenceBlockBytes = block :=
    CoherenceConfig.div_eq_block first (by omega)
  obtain ⟨known, bytes, reports, holds, byte⟩ := inv.returned host snapshot returned position starts
    ends
  rw [here] at reports holds byte
  rw [reported] at reports
  cases reports
  rw [published] at holds
  cases holds
  have inside : position - write.offset < write.storage.length := by omega
  rw [byte, writes position above (by simp only [ObjectGeometry.copyEnd]; omega),
    List.getD_eq_getElem _ _ inside, List.getElem?_eq_getElem inside]

end Runs

/-- Publication by a correctly used barrier.  Let one context have staged a write before its counted
call, and let a call of the same generation have returned success to another one.  The write was
committed, once, and every read that returns on the second context's host after that, its own
included, reports each block of the write at no less than the version that the commit produced, and
with the committed bytes if it reports that version; if no other commit of the block followed, it
does.  Generations are told apart without their modulus. -/
theorem barrier_publication {participants : cluster.Host → Nat} {id : Nat}
    {world : PublicationWorld scene}
    (execution : Run.ReachesBy step (UsesCorrectly participants id) (initial scene) world)
    {call : Nat} {arrival : BarrierArrival scene} (arrived : world.arrivals call = some arrival)
    {ret : BarrierReturn scene} (returned : ret ∈ world.returns)
    {first second : BarrierCall cluster} (called : world.barrier.calls[call]? = some first)
    (calledToo : world.barrier.calls[ret.call]? = some second) (firstId : first.id = id)
    (secondId : second.id = id)
    (sameGeneration : BarrierWorld.round participants world.barrier.calls call =
      BarrierWorld.round participants world.barrier.calls ret.call)
    {staged : StagedWrite scene} (before : staged ∈ arrival.staged) :
    first.generation = second.generation ∧
    (∃! produced, ⟨arrival.context, staged, produced⟩ ∈ world.commits) ∧
    ∀ produced, ⟨arrival.context, staged, produced⟩ ∈ world.commits →
      produced.map Prod.fst = staged.blocks ∧
      ∀ block version, (block, version) ∈ produced → ∀ (index : Nat) snapshot reported,
        ret.observed staged.object ≤ index →
        (world.objects staged.object).events[index]? =
          some (.readReturned (scene.contextHost ret.context) snapshot) →
        snapshot.reported block = some reported →
        version ≤ reported ∧
        (((world.objects staged.object).blocks block).version = version → reported = version) ∧
        (reported = version → ∀ position,
          (scene.geometry staged.object).copyBegin staged.write block ≤ position →
          position < (scene.geometry staged.object).copyEnd staged.write block →
          snapshot.offset ≤ position → position < snapshot.offset + snapshot.storage.length →
          snapshot.storage[position - snapshot.offset]? =
            staged.write.storage[position - staged.write.offset]?) := by
  have inv := reached_publication execution
  obtain ⟨use, rounds, rounded⟩ := BarrierWorld.reached_rounds inv.barrier
  obtain ⟨committed, recorded, acquired⟩ := inv.visible ret returned call arrival first second
    arrived called calledToo firstId secondId sameGeneration staged before
  refine ⟨?_, ⟨committed, recorded, fun other another => inv.owners.unique recorded another⟩, ?_⟩
  · rw [(rounded.entered call first called firstId).1,
      (rounded.entered ret.call second calledToo secondId).1, sameGeneration]
  · intro produced commit
    obtain rfl := inv.owners.unique recorded commit
    obtain ⟨blocks, publishes⟩ := inv.commits _ commit
    refine ⟨blocks, ?_⟩
    intro block version made index snapshot reported after present reports
    have reached := inv.objects staged.object
    obtain ⟨boundary, versions, earlier, passed, covered⟩ := acquired block version made
    have fresh := (CoherenceConfig.reads_are_fresh reached (earlier.trans_le after) present
      reports).2.1 versions passed
    have current := (CoherenceConfig.reached_fresh reached).guaranteed _
      (List.mem_of_getElem? present) _ block reported ⟨rfl, reports⟩
    refine ⟨covered.trans fresh, fun last => by omega, ?_⟩
    rintro rfl position above below starts ends
    exact snapshot_bytes (CoherenceConfig.reached_snapshots reached)
      (publishes block reported made) (List.mem_of_getElem? present) reports above below starts ends

def pairScene : BarrierScene BarrierWorld.twoHosts where
  objectCount := 1
  geometry := fun _ => CoherenceConfig.twoBytes
  content := fun _ _ _ => 0
  contextHost := fun context => if context = 0 then ⟨0, Nat.two_pos⟩ else ⟨1, Nat.one_lt_two⟩

def pairObject : Fin pairScene.objectCount := ⟨0, by decide⟩

/-- A buffer for the whole object. -/
def pairWrite : StagedWrite pairScene :=
  ⟨pairObject, 5, ⟨[⟨0, ⟨⟨⟨0, 0⟩, 0⟩, 0, 0⟩⟩], 0, [0, 0], [7, 9]⟩⟩

/-- The second host caches the object; the first context stages a write and both call the barrier;
the second context returns and reads again. -/
def pairOps : List (PublicationOp pairScene) :=
  PublicationOp.access pairObject (.startRead ⟨1, Nat.one_lt_two⟩ 0 2) ::
    List.replicate 11 (PublicationOp.access pairObject (.read ⟨1, Nat.one_lt_two⟩)) ++
    [PublicationOp.access pairObject (.obtain ⟨0, Nat.two_pos⟩ 5 0), .stageWriteBuffer 0 pairWrite,
      .barrier 0 7 1] ++
    List.replicate 13 (PublicationOp.advance 0) ++
    [PublicationOp.barrier 1 7 1, .advance 1, .manage (.deliver 0), .manage (.deliver 0),
      .advance 1, .advance 1, .access pairObject (.startRead ⟨1, Nat.one_lt_two⟩ 0 2)] ++
    List.replicate 11 (PublicationOp.access pairObject (.read ⟨1, Nat.one_lt_two⟩))

def snapshotOf : CoherenceEvent BarrierWorld.twoHosts → Option (Nat × ReadSnapshot)
  | .readReturned host snapshot => some (host.val, snapshot)
  | .acquired _ _ => none
  | .released _ _ => none

theorem barrier_publication_pair :
    ∃ (world : PublicationWorld pairScene) (version : Nat),
      Run.runLabels step (initial pairScene) pairOps = some world ∧
      (world.objects pairObject).events[3]? =
        some (.readReturned ⟨1, by decide⟩ ⟨0, 0, [version], [7, 9]⟩) ∧
      ⟨0, pairWrite, [(0, 1)]⟩ ∈ world.commits ∧ 1 ≤ version := by
  have outcome : (Run.runLabels step (initial pairScene) pairOps).any
      (fun world : PublicationWorld pairScene =>
        world.arrivals 0 = some ⟨0, [pairWrite]⟩ ∧
          world.returns.map (fun ret => (ret.context, ret.call, ret.observed pairObject)) =
            [(1, 1, 3)] ∧
          (world.objects pairObject).events[3]?.bind snapshotOf =
            some (1, ⟨0, 0, [1], [7, 9]⟩) ∧
          world.barrier.calls = [⟨⟨0, by decide⟩, 7, 0, 1⟩, ⟨⟨1, by decide⟩, 7, 0, 1⟩] ∧
          world.commits = [⟨0, pairWrite, [(0, 1)]⟩]) = true := by
    decide +kernel
  have correct : Run.AdmitsLabels step (UsesCorrectly (fun _ => 1) 7) (initial pairScene)
      pairOps := by
    decide +kernel
  obtain ⟨world, execution, facts⟩ := (Option.any_eq_true _ _).mp outcome
  obtain ⟨arrived, returned, read, calls, commits⟩ := of_decide_eq_true facts
  obtain ⟨ret, alone, values⟩ := List.map_eq_singleton_iff.mp returned
  obtain ⟨context, rest⟩ := Prod.mk.inj values
  obtain ⟨position, observed⟩ := Prod.mk.inj rest
  have present : (world.objects pairObject).events[3]? =
      some (.readReturned ⟨1, by decide⟩ ⟨0, 0, [1], [7, 9]⟩) := by
    obtain ⟨event, there, snapshot⟩ := Option.bind_eq_some_iff.mp read
    cases event with
    | readReturned host snapshot' =>
        obtain ⟨host_eq, rfl⟩ := Prod.mk.inj (Option.some.inj snapshot)
        obtain rfl : host = ⟨1, by decide⟩ := Fin.ext host_eq
        exact there
    | acquired | released => cases snapshot
  have recorded : ⟨0, pairWrite, [(0, 1)]⟩ ∈ world.commits := by
    rw [commits]
    exact List.mem_singleton_self _
  have member : ret ∈ world.returns := by
    rw [alone]
    exact List.mem_singleton_self _
  have first : world.barrier.calls[0]? = some ⟨⟨0, by decide⟩, 7, 0, 1⟩ := by
    rw [calls]
    rfl
  have second : world.barrier.calls[ret.call]? = some ⟨⟨1, by decide⟩, 7, 0, 1⟩ := by
    rw [calls, position]
    rfl
  have sameGeneration : BarrierWorld.round (fun _ => 1) world.barrier.calls 0 =
      BarrierWorld.round (fun _ => 1) world.barrier.calls ret.call := by
    rw [calls, position]
    decide
  obtain ⟨-, -, published⟩ := barrier_publication
    (Run.reachesBy_of_runLabels execution correct) arrived member first second rfl rfl
    sameGeneration (List.mem_singleton_self pairWrite)
  have reader : pairScene.contextHost ret.context = ⟨1, by decide⟩ := by
    rw [context]
    rfl
  have covered := (published [(0, 1)] recorded).2 0 1 (List.mem_singleton_self _) 3
    ⟨0, 0, [1], [7, 9]⟩ 1 observed.le (by rw [reader]; exact present) rfl
  exact ⟨world, 1, execution, present, recorded, covered.1⟩

end PublicationWorld
end Cxloom.LoomPar
