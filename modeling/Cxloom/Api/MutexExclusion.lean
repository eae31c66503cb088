import Cxloom.Api.MutexLeases

/-!
# Exclusion of a distributed mutex

The gates and the write buffers together give exclusion across hosts: in every run at most one
context has locked the mutex, a lock that fails keeps neither its gate nor a lease, and only the
holder of a handle unlocks it.
-/

namespace Cxloom.Api

open LoomMem

variable {cluster : Cluster}

/-! ## Runs -/

/-- The invariant of every run. -/
structure MutexInv (scene : MutexScene cluster) (world : MutexWorld cluster) : Prop where
  gates : GateInv scene world.handles world.phase world.history
  /-- The write buffers agree with the token services. -/
  leases : LeaseInv scene world.tokens world.handles world.phase

namespace MutexInv

open MutexWorld

variable {scene : MutexScene cluster} {world after : MutexWorld cluster} {context handle : Nat}
  {impl : MutexHandle cluster} {op : TokenOp cluster} {attempt : Bool}

theorem usable_some (found : world.usable scene context handle = some impl) :
    world.handles[handle]? = some impl ∧ impl.host = scene.contextHost context ∧
      world.phase context = .idle := by
  obtain ⟨present, allowed⟩ := Option.filter_eq_some_iff.mp found
  obtain ⟨host, idle⟩ : impl.host = scene.contextHost context ∧ world.phase context = .idle := by
    simpa using allowed
  exact ⟨present, host, idle⟩

theorem call_some {continue_ : Status → MutexWorld cluster → MutexWorld cluster}
    (performed : world.call op continue_ = some after) :
    ∃ status tokens, world.tokens.step op = some (status, tokens) ∧
      after = continue_ status (world.withTokens tokens) := by
  obtain ⟨⟨status, tokens⟩, stepped, rfl⟩ := Option.map_eq_some_iff.mp performed
  exact ⟨status, tokens, stepped, rfl⟩

/-- A call goes on with the gate that it has. -/
theorem setPhase (inv : MutexInv scene world) {next : MutexPhase}
    (gate : next.gate = (world.phase context).gate)
    (unlocks : next.unlocks = (world.phase context).unlocks)
    (keeps : ∀ handle impl, (world.phase context).gate = some handle →
      world.handles[handle]? = some impl → (world.phase context).Keeps impl.lease →
        next.Keeps impl.lease)
    (runs : ∀ handle, next ≠ .parked handle)
    (established : next.Established scene world.tokens.issued (scene.contextHost context))
    (requests : ∀ requestId, (world.phase context).request = some requestId →
      next.request = some requestId ∨
        world.tokens.state.Spent (scene.contextHost context) requestId)
    (stores : (world.phase context).stores = false) :
    MutexInv scene (world.setPhase context next) :=
  ⟨inv.gates.setPhase gate unlocks keeps fun handle parks => (runs handle parks).elim,
    inv.leases.setPhase established requests fun storing => by simp [stores] at storing⟩

/-- A call returns at the gate. -/
theorem rest (inv : MutexInv scene world) (idle : world.phase context = .idle) :
    MutexInv scene (world.setPhase context .idle) := by
  have same : world.setPhase context .idle = world := by
    simp [MutexWorld.setPhase, ← idle]
  rwa [same]

/-- A lock waits at a closed gate. -/
theorem park (inv : MutexInv scene world) (idle : world.phase context = .idle)
    (found : world.handles[handle]? = some impl)
    (host : impl.host = scene.contextHost context) :
    MutexInv scene (world.setPhase context (.parked handle)) := by
  refine ⟨inv.gates.setPhase ?_ ?_ ?_ ?_, inv.leases.setPhase trivial ?_ ?_⟩
  · rw [idle]
    rfl
  · rw [idle]
    rfl
  · exact fun _ _ _ _ _ => trivial
  · intro other parks
    obtain rfl := MutexPhase.parked.inj parks
    exact ⟨impl, found, host⟩
  · simp [idle, MutexPhase.request]
  · simp [idle, MutexPhase.stores]

/-- A change of a handle that its users do not notice. -/
theorem modify (inv : MutexInv scene world) (handle : Nat)
    {change : MutexHandle cluster → MutexHandle cluster}
    (same : ∀ impl, (change impl).host = impl.host ∧ (change impl).locked = impl.locked ∧
      (change impl).owner = impl.owner ∧ (change impl).lease = impl.lease) :
    MutexInv scene (world.modifyHandle handle change) :=
  ⟨inv.gates.modify handle same,
    inv.leases.modify handle fun impl => ⟨(same impl).1, (same impl).2.2.2⟩⟩

theorem close (inv : MutexInv scene world) (found : world.handles[handle]? = some impl)
    (host : impl.host = scene.contextHost context) (open_ : impl.locked = false)
    (free : (world.phase context).gate = none) (unrequested : (world.phase context).request = none)
    (quiet : (world.phase context).stores = false) (attempt : Bool)
    {change : MutexHandle cluster → MutexHandle cluster}
    (same : ∀ impl, (change impl).host = impl.host ∧ (change impl).lease = impl.lease)
    (locked : (change impl).locked = true) (owner : (change impl).owner = context) :
    MutexInv scene
      ((world.modifyHandle handle change).setPhase context (.acquiring handle attempt)) := by
  have leases := inv.leases.modify handle same
  refine ⟨inv.gates.close found host open_ free attempt (same impl).1 locked owner (same impl).2,
    leases.setPhase trivial ?_ ?_⟩
  · simp [unrequested]
  · simp [quiet]

/-- The first critical section of a lock. -/
theorem lock (inv : MutexInv scene world) (usable : world.usable scene context handle = some impl)
    (attempt : Bool) : MutexInv scene (world.lock context handle impl attempt) := by
  obtain ⟨found, host, idle⟩ := usable_some usable
  have returned := inv.rest idle
  unfold MutexWorld.lock
  split
  · refine ⟨returned.gates.refuse context handle ?_, returned.leases⟩
    cases attempt <;> simp
  · split
    · exact ⟨returned.gates.refuse context handle (by simp), returned.leases⟩
    · split
      · have counted : MutexInv scene (world.modifyHandle handle fun impl =>
            { impl with waiters := impl.waiters + 1 }) :=
          inv.modify handle fun _ => ⟨rfl, rfl, rfl, rfl⟩
        have present : (world.modifyHandle handle fun impl =>
            { impl with waiters := impl.waiters + 1 }).handles[handle]? =
              some { impl with waiters := impl.waiters + 1 } := by
          simp [modifyHandle, found]
        exact counted.park idle present host
      · rename_i shut
        exact inv.close found host (by simpa using shut) (by rw [idle]; rfl) (by rw [idle]; rfl)
          (by rw [idle]; rfl) attempt (fun _ => ⟨rfl, rfl⟩) rfl rfl

/-- The checks of an unlock. -/
theorem unlock (inv : MutexInv scene world)
    (usable : world.usable scene context handle = some impl) :
    MutexInv scene (world.unlock context handle impl) := by
  obtain ⟨found, host, idle⟩ := usable_some usable
  simp only [MutexWorld.unlock]
  split
  · have called : MutexInv scene (world.record (.unlockCalled context handle)) :=
      ⟨inv.gates.call context handle, inv.leases⟩
    have returned := called.rest idle
    exact ⟨returned.gates.reject context handle (by simp), returned.leases⟩
  · rename_i accepted
    obtain ⟨locked, owner⟩ : impl.locked = true ∧ impl.owner = context := by
      simpa [not_or] using accepted
    refine ⟨inv.gates.beginUnlock found ⟨host, locked, owner⟩ (by rw [idle]; rfl),
      inv.leases.setPhase trivial ?_ ?_⟩
    · simp [idle, MutexPhase.request]
    · simp [idle, MutexPhase.stores]

/-- The services act for nobody in particular. -/
theorem serve (inv : MutexInv scene world) {status : Status} {tokens : TokenConfig cluster}
    (performed : world.tokens.step op = some (status, tokens))
    (requests : ∀ host key activate, op ≠ .request host key activate)
    (begins : ∀ host lease, op ≠ .beginWriteback host lease)
    (leased : tokens.leased = world.tokens.leased) : MutexInv scene (world.withTokens tokens) :=
  ⟨inv.gates, inv.leases.serve performed requests begins leased⟩

/-- The publication of the staged writes before an unlock. -/
theorem synchronizeRelease (inv : MutexInv scene world) {status : StatusCode}
    (performed : world.synchronizeRelease scene context status = some after) :
    MutexInv scene after := by
  unfold MutexWorld.synchronizeRelease at performed
  split at performed
  · rename_i handle running
    dsimp only at performed
    generalize (if scene.initialized (scene.contextHost context) = true then status
      else StatusCode.failedPrecondition) = published at performed
    split at performed
    · rename_i failed
      obtain rfl := Option.some.inj performed
      refine ⟨inv.gates.failUnlock (by rw [running]; rfl) (by rw [running]; rfl) failed,
        inv.leases.setPhase trivial ?_ ?_⟩
      · simp [running, MutexPhase.request]
      · simp [running, MutexPhase.stores]
    · obtain ⟨held, kept, rfl⟩ := Option.map_eq_some_iff.mp performed
      obtain ⟨impl, found, lease⟩ := Option.bind_eq_some_iff.mp kept
      refine inv.setPhase (by rw [running]; rfl) (by rw [running]; rfl) ?_ (by simp) rfl
        (by simp [running, MutexPhase.request]) (by rw [running]; rfl)
      intro other impl' gate found' _
      rw [running] at gate
      obtain rfl := Option.some.inj gate
      obtain rfl := Option.some.inj (found.symm.trans found')
      exact lease
  · cases performed

/-- A failed acquisition tries again or gives up. -/
theorem retry (inv : MutexInv scene world) {status : StatusCode}
    (gate : (world.phase context).gate = some handle)
    (locks : (world.phase context).unlocks = false)
    (unkept : ∀ impl : MutexHandle cluster, (world.phase context).Keeps impl.lease →
      impl.lease = none)
    (failed : status ≠ .ok)
    (spent : ∀ requestId, (world.phase context).request = some requestId →
      world.tokens.state.Spent (scene.contextHost context) requestId)
    (stores : (world.phase context).stores = false) :
    MutexInv scene (world.setPhase context (MutexWorld.retry handle attempt status)) := by
  unfold MutexWorld.retry
  split
  · exact inv.setPhase gate.symm locks.symm (fun _ impl _ _ keeps => unkept impl keeps) (by simp)
      failed (fun requestId requested => .inr (spent requestId requested)) stores
  · exact inv.setPhase gate.symm locks.symm (fun _ impl _ _ keeps => unkept impl keeps) (by simp)
      trivial (fun requestId requested => .inr (spent requestId requested)) stores

theorem acquiring (inv : MutexInv scene world)
    (running : world.phase context = .acquiring handle attempt)
    (performed : world.advance scene context = some after) : MutexInv scene after := by
  have again : ∀ status, status ≠ .ok →
      MutexInv scene (world.setPhase context (MutexWorld.retry handle attempt status)) := by
    intro status failed
    exact inv.retry (by rw [running]; rfl) (by rw [running]; rfl)
      (fun _ keeps => by rw [running] at keeps; exact keeps) failed
      (by simp [running, MutexPhase.request]) (by rw [running]; rfl)
  simp only [MutexWorld.advance, running] at performed
  split at performed
  · rename_i ready
    obtain ⟨status, tokens, stepped, rfl⟩ := call_some performed
    cases accepted : status.isOk with
    | true =>
        exact ⟨inv.gates.setPhase (by rw [running]; rfl) (by rw [running]; rfl)
          (fun _ _ _ _ keeps => by rw [running] at keeps; exact keeps) (by simp),
          inv.leases.request running ready stepped accepted⟩
    | false =>
        rcases TokenConfig.step_request inv.leases.named stepped with ⟨-, same⟩ | ⟨ok, -⟩
        · rw [same]
          refine again status.code fun ok => ?_
          simp [Status.isOk, ok] at accepted
        · rw [ok] at accepted
          cases accepted
  · obtain rfl := Option.some.inj performed
    exact again .failedPrecondition (by simp)

theorem waiting (inv : MutexInv scene world) {requestId : Nat}
    (running : world.phase context = .waiting handle attempt requestId)
    (performed : world.advance scene context = some after) : MutexInv scene after := by
  have gate : (world.phase context).gate = some handle := by
    rw [running]
    rfl
  obtain ⟨impl, found, closedBy, -⟩ := inv.gates.fits context handle gate
  simp only [MutexWorld.advance, running] at performed
  obtain ⟨status, tokens, stepped, rfl⟩ := call_some performed
  unfold afterWait
  split
  · rename_i lease accepted leased
    exact ⟨inv.gates.keepLease gate (by rw [running]; rfl) ⟨requestId, lease⟩,
      inv.leases.collect running found closedBy.host stepped accepted leased⟩
  · rename_i missing
    have refused : status.isOk = false ∧ tokens.leased = world.tokens.leased := by
      cases TokenConfig.step_effect stepped with
      | waited _ _ key lease => exact (missing lease rfl (by simp [withTokens])).elim
      | waitFailed _ _ key status issued failed =>
          exact ⟨LeaseInv.wait_failed (inv.leases.reports _ _) failed, rfl⟩
    have served := inv.serve stepped (by simp) (by simp) refused.2
    have same : (world.withTokens tokens).phase context = .waiting handle attempt requestId :=
      running
    have established := served.leases.established context
    rw [same] at established
    refine served.setPhase (by rw [same]; rfl) (by rw [same]; rfl)
      (fun _ _ _ _ keeps => by rw [same] at keeps; exact keeps) (by simp) ⟨?_, ?_⟩ ?_
      (by rw [same]; rfl)
    · rw [established.1]
      rfl
    · intro ok
      have failed := refused.1
      simp [Status.isOk, ok] at failed
    · intro other requested
      rw [same] at requested
      exact .inl requested

theorem cancelling (inv : MutexInv scene world) {requestId : Nat} {code : StatusCode}
    (running : world.phase context = .cancelling handle attempt requestId code)
    (performed : world.advance scene context = some after) : MutexInv scene after := by
  simp only [MutexWorld.advance, running] at performed
  obtain ⟨status, tokens, stepped, rfl⟩ := call_some performed
  have spent : tokens.state.Spent (scene.contextHost context) requestId := by
    cases TokenConfig.step_effect stepped with
    | cancelledAndWaited _ _ key =>
        exact TokenState.cancelAndWait_spent inv.leases.inactive _ ⟨key, requestId⟩
  have leased : tokens.leased = world.tokens.leased := by
    cases TokenConfig.step_effect stepped
    rfl
  have served := inv.serve stepped (by simp) (by simp) leased
  have same : (world.withTokens tokens).phase context =
      .cancelling handle attempt requestId code := running
  have established := served.leases.established context
  rw [same] at established
  have givenUp : ∀ other, ((world.withTokens tokens).phase context).request = some other →
      tokens.state.Spent (scene.contextHost context) other := by
    intro other requested
    rw [same] at requested
    exact Option.some.inj requested ▸ spent
  split
  · exact served.setPhase (by rw [same]; rfl) (by rw [same]; rfl)
      (fun _ _ _ _ keeps => by rw [same] at keeps; exact keeps) (by simp) established
      (fun other requested => .inr (givenUp other requested)) (by rw [same]; rfl)
  · exact served.retry (by rw [same]; rfl) (by rw [same]; rfl)
      (fun _ keeps => by rw [same] at keeps; exact keeps) established.2 givenUp (by rw [same]; rfl)

theorem awaitingCancel (inv : MutexInv scene world) {requestId : Nat} {code : StatusCode}
    (running : world.phase context = .awaitingCancel handle attempt requestId code)
    (performed : world.advance scene context = some after) : MutexInv scene after := by
  simp only [MutexWorld.advance, running] at performed
  obtain ⟨status, tokens, stepped, rfl⟩ := call_some performed
  have leased : tokens.leased = world.tokens.leased := by
    cases TokenConfig.step_effect stepped
    rfl
  have served := inv.serve stepped (by simp) (by simp) leased
  have same : (world.withTokens tokens).phase context =
      .awaitingCancel handle attempt requestId code := running
  have established := served.leases.established context
  rw [same] at established
  exact served.retry (by rw [same]; rfl) (by rw [same]; rfl)
    (fun _ keeps => by rw [same] at keeps; exact keeps) established.2
    (by simp [same, MutexPhase.request]) (by rw [same]; rfl)

theorem parked (inv : MutexInv scene world) (running : world.phase context = .parked handle)
    (performed : world.advance scene context = some after) : MutexInv scene after := by
  obtain ⟨impl, found, host⟩ := inv.gates.parked context handle running
  simp only [MutexWorld.advance, running, found, Option.bind_some] at performed
  split at performed
  · cases performed
  · rename_i shut
    obtain rfl := Option.some.inj performed
    exact inv.close found host (by simpa using shut) (by rw [running]; rfl) (by rw [running]; rfl)
      (by rw [running]; rfl) false (fun _ => ⟨rfl, rfl⟩) rfl rfl

theorem synchronizing (inv : MutexInv scene world)
    (running : world.phase context = .synchronizing handle)
    (performed : world.advance scene context = some after) : MutexInv scene after := by
  have ready : scene.initialized (scene.contextHost context) = true := by
    have established := inv.leases.established context
    rw [running] at established
    exact established
  simp only [MutexWorld.advance, running, ready, if_true] at performed
  obtain rfl := Option.some.inj performed
  refine ⟨inv.gates.acquire running, inv.leases.setPhase trivial ?_ ?_⟩
  · simp [running, MutexPhase.request]
  · simp [running, MutexPhase.stores]

theorem undoing (inv : MutexInv scene world) {status : StatusCode}
    (running : world.phase context = .undoing handle status)
    (performed : world.advance scene context = some after) : MutexInv scene after := by
  obtain ⟨impl, found, -, keeps⟩ := inv.gates.fits context handle (by rw [running]; rfl)
  have lease : impl.lease = none := by
    rw [running] at keeps
    exact keeps
  have failed : status ≠ .ok := by
    have established := inv.leases.established context
    rw [running] at established
    exact established
  simp only [MutexWorld.advance, running, found, Option.map_some, lease] at performed
  obtain rfl := Option.some.inj performed
  have leases := inv.leases.modify handle (fun _ => ⟨rfl, rfl⟩ : ∀ impl : MutexHandle cluster,
    (open_ impl).host = impl.host ∧ (open_ impl).lease = impl.lease)
  refine ⟨inv.gates.undo running failed, leases.setPhase trivial ?_ ?_⟩
  · simp [running, MutexPhase.request]
  · simp [running, MutexPhase.stores]

/-- A call that is about to write back is the only one that could be storing. -/
theorem quiet_of_lease (inv : MutexInv scene world) {held : HeldLease}
    (found : world.handles[handle]? = some impl) (closedBy : impl.ClosedBy scene context)
    (lease : impl.lease = some held) (mine : (world.phase context).stores = false) (other : Nat) :
    (world.phase other).stores = false := by
  cases running : world.phase other with
  | storing otherHandle otherHeld purpose =>
      obtain ⟨impl', found', closedBy', keeps⟩ :=
        inv.gates.fits other otherHandle (by rw [running]; rfl)
      have lease' : impl'.lease = some otherHeld := by
        rw [running] at keeps
        exact keeps
      obtain rfl := inv.leases.single otherHandle handle impl' impl found' found
        (by simp [lease']) (by simp [lease])
      obtain rfl := Option.some.inj (found.symm.trans found')
      obtain rfl : other = context := closedBy'.owner.symm.trans closedBy.owner
      rw [running] at mine
      cases mine
  | idle | parked | acquiring | waiting | cancelling | awaitingCancel | synchronizing | undoing
  | publishing | releasing | abandoning => rfl

theorem releasing (inv : MutexInv scene world) {held : HeldLease} {purpose : ReleasePurpose}
    (running : world.phase context = .releasing handle held purpose)
    (performed : world.advance scene context = some after) : MutexInv scene after := by
  obtain ⟨impl, found, closedBy, keeps⟩ := inv.gates.fits context handle (by rw [running]; rfl)
  have lease : impl.lease = some held := by
    rw [running] at keeps
    exact keeps
  obtain rfl : purpose = .unlock := by
    have established := inv.leases.established context
    rw [running] at established
    exact established
  simp only [MutexWorld.advance, running] at performed
  obtain ⟨status, tokens, stepped, rfl⟩ := call_some performed
  obtain ⟨accepted, leases⟩ := inv.leases.begin_ running found closedBy.host lease
    (inv.quiet_of_lease found closedBy lease (by rw [running]; rfl)) stepped
  rw [accepted, if_pos rfl]
  exact ⟨inv.gates.setPhase (by rw [running]; rfl) (by rw [running]; rfl)
    (fun _ _ _ _ keeps => by rw [running] at keeps; exact keeps) (by simp), leases⟩

theorem storing (inv : MutexInv scene world) {held : HeldLease} {purpose : ReleasePurpose}
    (running : world.phase context = .storing handle held purpose)
    (performed : world.advance scene context = some after) : MutexInv scene after := by
  have gate : (world.phase context).gate = some handle := by
    rw [running]
    rfl
  obtain ⟨impl, found, closedBy, keeps⟩ := inv.gates.fits context handle gate
  have lease : impl.lease = some held := by
    rw [running] at keeps
    exact keeps
  obtain rfl : purpose = .unlock := by
    have established := inv.leases.established context
    rw [running] at established
    exact established
  simp only [MutexWorld.advance, running] at performed
  obtain ⟨status, tokens, stepped, rfl⟩ := call_some performed
  simp only [afterRelease]
  split
  · rename_i accepted
    exact ⟨inv.gates.finishUnlock gate,
      inv.leases.release running found closedBy.host lease stepped
        (by simp [Status.isOk, accepted])⟩
  · rename_i refused
    exact ⟨inv.gates.failUnlock gate (by rw [running]; rfl) refused,
      inv.leases.releaseFailed running found closedBy.host lease stepped
        (by simp [Status.isOk, refused])⟩

/-- Every action of a running call keeps the invariant. -/
theorem advance (inv : MutexInv scene world)
    (performed : world.advance scene context = some after) : MutexInv scene after := by
  cases running : world.phase context with
  | idle | publishing => simp [MutexWorld.advance, running] at performed
  | parked => exact inv.parked running performed
  | acquiring => exact inv.acquiring running performed
  | waiting => exact inv.waiting running performed
  | cancelling => exact inv.cancelling running performed
  | awaitingCancel => exact inv.awaitingCancel running performed
  | synchronizing => exact inv.synchronizing running performed
  | undoing => exact inv.undoing running performed
  | releasing => exact inv.releasing running performed
  | storing => exact inv.storing running performed
  | abandoning =>
      have established := inv.leases.established context
      rw [running] at established
      exact established.elim

/-- Every action keeps the invariant. -/
theorem step (inv : MutexInv scene world) {op : MutexOp cluster}
    (performed : world.step scene op = some after) : MutexInv scene after := by
  cases op with
  | attach host =>
      obtain rfl := Option.some.inj performed
      exact ⟨inv.gates.attach host, inv.leases.attach host⟩
  | lock context handle attempt =>
      obtain ⟨impl, usable, rfl⟩ := Option.map_eq_some_iff.mp performed
      exact inv.lock usable attempt
  | unlock context handle =>
      obtain ⟨impl, usable, rfl⟩ := Option.map_eq_some_iff.mp performed
      exact inv.unlock usable
  | advance context => exact inv.advance performed
  | synchronizeRelease context status => exact inv.synchronizeRelease performed
  | progress host | publish source destination | deliver source destination =>
      simp only [MutexWorld.step] at performed
      obtain ⟨status, tokens, stepped, rfl⟩ := call_some performed
      refine inv.serve stepped (by simp) (by simp) ?_
      cases TokenConfig.step_effect stepped
      rfl

/-- A running call that waits for no gate and for no staged write always has a next action. -/
theorem advance_enabled (inv : MutexInv scene world) (running : world.phase context ≠ .idle)
    (parked : ∀ handle, world.phase context ≠ .parked handle)
    (publishing : ∀ handle, world.phase context ≠ .publishing handle) :
    ∃ after, world.advance scene context = some after := by
  have established := inv.leases.established context
  cases phase : world.phase context with
  | idle => exact (running phase).elim
  | parked handle => exact (parked handle phase).elim
  | publishing handle => exact (publishing handle phase).elim
  | abandoning =>
      rw [phase] at established
      exact established.elim
  | synchronizing handle =>
      simp only [MutexWorld.advance, phase]
      split
      · exact ⟨_, rfl⟩
      · exact ⟨_, rfl⟩
  | undoing handle status =>
      obtain ⟨impl, found, -⟩ := inv.gates.fits context handle (by rw [phase]; rfl)
      simp only [MutexWorld.advance, phase, found, Option.map_some]
      exact ⟨_, rfl⟩
  | acquiring handle attempt =>
      simp only [MutexWorld.advance, phase, call, TokenConfig.step]
      split
      · split
        · exact ⟨_, rfl⟩
        · exact ⟨_, rfl⟩
      · exact ⟨_, rfl⟩
  | waiting handle attempt requestId =>
      rw [phase] at established
      simp only [MutexWorld.advance, phase, call, TokenConfig.step, established.1,
        Option.map_some]
      exact ⟨_, rfl⟩
  | cancelling handle attempt requestId status | awaitingCancel handle attempt requestId status =>
      rw [phase] at established
      obtain ⟨key, issued⟩ := Option.isSome_iff_exists.mp established.1
      simp only [MutexWorld.advance, phase, call, TokenConfig.step, issued, Option.map_some]
      exact ⟨_, rfl⟩
  | releasing handle held purpose =>
      simp only [MutexWorld.advance, phase, call, TokenConfig.step, Option.map_some]
      exact ⟨_, rfl⟩
  | storing handle held purpose =>
      obtain ⟨impl, found, closedBy, keeps⟩ := inv.gates.fits context handle (by rw [phase]; rfl)
      rw [phase] at keeps
      obtain ⟨leased, -⟩ := inv.leases.kept handle impl held found keeps
      rw [closedBy.host] at leased
      simp only [MutexWorld.advance, phase, call, TokenConfig.step, leased, Option.map_some]
      exact ⟨_, rfl⟩

end MutexInv

namespace MutexWorld

variable {scene : MutexScene cluster} {start world after : MutexWorld cluster}

/-- The mutex has been created and nobody has used it. -/
structure Created (scene : MutexScene cluster) (world : MutexWorld cluster) : Prop where
  /-- The token services have run. -/
  tokens : ∃ allocation, (TokenConfig.initial cluster allocation).Reaches world.tokens
  unleased : ∀ host requestId, world.tokens.leased host requestId = none
  unrequested : ∀ host requestId, world.tokens.state.waiter host requestId = none
  /-- No packet is under way. -/
  silent : ∀ source destination, world.tokens.state.fifo source destination = []
  /-- No request is queued. -/
  unqueued : ∀ host key, (world.tokens.state.localObject host key).pending = []
  /-- No writeback is under way. -/
  even : (world.tokens.state.block scene.key).writebackEpoch % 2 = 0
  handles : ∃ host, world.handles = [.fresh host]
  /-- No call is running. -/
  idle : ∀ context, world.phase context = .idle
  /-- Nothing has happened. -/
  history : world.history = []

theorem Created.inv (created : Created scene start) : MutexInv scene start := by
  obtain ⟨allocation, reached⟩ := created.tokens
  obtain ⟨host, handles⟩ := created.handles
  have fresh : ∀ (handle : Nat) impl, start.handles[handle]? = some impl → impl = .fresh host := by
    intro handle impl found
    rw [handles] at found
    exact List.mem_singleton.mp (List.mem_of_getElem? found)
  refine ⟨⟨?_, ?_, ?_, ?_, ?_, ?_, ?_⟩,
    ⟨TokenConfig.reaches_named reached, ⟨?_, ?_⟩, ?_, ?_, ?_, ?_, ?_,
    fun _ => created.even, ?_⟩⟩
  · simp [created.idle, MutexPhase.gate]
  · simp [created.idle]
  · simp [created.idle, MutexPhase.gate]
  · intro handle impl found _
    rw [fresh handle impl found]
    rfl
  · intro handle impl found locked
    rw [fresh handle impl found] at locked
    cases locked
  · intro context handle holds
    rw [created.history] at holds
    exact (not_holds_nil holds).elim
  · intro context handle within
    rw [created.history] at within
    exact (not_inside_nil within).elim
  · simp [created.silent]
  · simp [created.unqueued]
  · simp [created.unrequested]
  · intro handle impl held found lease
    rw [fresh handle impl found] at lease
    cases lease
  · simp [created.unleased]
  · intro first second one two firstFound _ firstLease
    rw [fresh first one firstFound] at firstLease
    cases firstLease
  · intro host requestId unspent
    exact (unspent (.of_none (created.unrequested host requestId))).elim
  · intro context
    rw [created.idle]
    trivial

theorem reaches_inv (created : Created scene start) (execution : Reaches scene start world) :
    MutexInv scene world :=
  Run.ReachesBy.preserves execution (MutexInv scene) created.inv
    fun _ _ _ inv _ performed => inv.step performed

/-- A lease belongs to a context: to a request of its running call, or to a handle that it has
locked or is locking or unlocking. -/
def Accounts (scene : MutexScene cluster) (world : MutexWorld cluster) (context : Nat) :
    LeaseHolder cluster → Prop
  | .caller host requestId =>
      ∃ (handle : Nat) (impl : MutexHandle cluster) (lease : TokenLease),
        world.handles[handle]? = some impl ∧ impl.host = host ∧
          impl.lease = some ⟨requestId, lease⟩ ∧ impl.owner = context ∧
          ((world.phase context).gate = some handle ∨ Holds world.history context handle)
  | .waiter host requestId =>
      scene.contextHost context = host ∧ (world.phase context).request = some requestId

/-- At most one context has locked the mutex. -/
theorem holder_unique (inv : MutexInv scene world) {first second one two : Nat}
    (firstHolds : Holds world.history first one) (secondHolds : Holds world.history second two) :
    first = second ∧ one = two := by
  obtain ⟨⟨impl, found, closedBy, lease⟩, -⟩ := inv.gates.held first one firstHolds
  obtain ⟨⟨impl', found', closedBy', lease'⟩, -⟩ := inv.gates.held second two secondHolds
  obtain rfl := inv.leases.single one two impl impl' found found' lease lease'
  obtain rfl := Option.some.inj (found.symm.trans found')
  exact ⟨closedBy.owner.symm.trans closedBy'.owner, rfl⟩

theorem lease_accounted (inv : MutexInv scene world) {holder : LeaseHolder cluster}
    (leased : (world.tokens.state.leaseFor world.tokens.leased scene.key holder).isSome = true) :
    ∃ context, world.Accounts scene context holder := by
  obtain ⟨lease, found⟩ := Option.isSome_iff_exists.mp leased
  cases holder with
  | caller host requestId =>
      obtain ⟨table, -⟩ : world.tokens.leased host requestId = some lease ∧
          lease.key = scene.key := by
        simpa [TokenState.leaseFor, Option.filter_eq_some_iff] using found
      obtain ⟨handle, impl, present, here, kept⟩ := inv.leases.callers host requestId lease table
      have locked : impl.locked = true := by
        cases shut : impl.locked with
        | true => rfl
        | false =>
            rw [inv.gates.opened handle impl present shut] at kept
            cases kept
      exact ⟨impl.owner, handle, impl, lease, present, here, kept, rfl,
        inv.gates.closed handle impl present locked⟩
  | waiter host requestId =>
      refine inv.leases.waiters host requestId fun spent => ?_
      simp [TokenState.leaseFor, spent.grantedLease] at found

/-- What an action shows to the callers. -/
inductive Shows (world after : MutexWorld cluster) : Prop
  | silent (same : after.history = world.history)
  | lockReturned (context handle : Nat) (status : StatusCode)
      (event : after.history = .lockReturned context handle status :: world.history)
      (idle : after.phase context = .idle)
  | unlockCalled (context handle : Nat)
      (event : after.history = .unlockCalled context handle :: world.history)
  | unlockRejected (context handle : Nat) (status : StatusCode)
      (event : after.history =
        .unlockReturned context handle status :: .unlockCalled context handle :: world.history)
  | unlockReturned (context handle : Nat) (status : StatusCode)
      (event : after.history = .unlockReturned context handle status :: world.history)

namespace Shows

variable {context handle : Nat} {attempt : Bool} {impl : MutexHandle cluster}

theorem returnLock {world before : MutexWorld cluster} (same : before.history = world.history)
    (context handle : Nat) (status : StatusCode) :
    Shows world (before.returnLock context handle status) :=
  .lockReturned context handle status (by simp [MutexWorld.returnLock, record, setPhase, same])
    (by simp [MutexWorld.returnLock, record, setPhase])

theorem lock (world : MutexWorld cluster) (context handle : Nat) (impl : MutexHandle cluster)
    (attempt : Bool) : Shows world (world.lock context handle impl attempt) := by
  unfold MutexWorld.lock
  split
  · exact returnLock rfl context handle _
  · split
    · exact returnLock rfl context handle _
    · split
      · exact .silent rfl
      · exact .silent rfl

theorem unlock (world : MutexWorld cluster) (context handle : Nat) (impl : MutexHandle cluster) :
    Shows world (world.unlock context handle impl) := by
  simp only [MutexWorld.unlock]
  split
  · exact .unlockRejected context handle .failedPrecondition rfl
  · exact .unlockCalled context handle rfl

theorem afterRelease {before : MutexWorld cluster} (same : before.history = world.history)
    (context handle : Nat) (purpose : ReleasePurpose) (status : StatusCode) :
    Shows world (before.afterRelease context handle purpose status) := by
  cases purpose with
  | undo original => exact .silent same
  | unlock =>
      simp only [MutexWorld.afterRelease]
      split
      · exact .unlockReturned context handle .ok (congrArg _ same)
      · exact .unlockReturned context handle status (congrArg _ same)

theorem synchronizeRelease {status : StatusCode}
    (performed : world.synchronizeRelease scene context status = some after) :
    Shows world after := by
  unfold MutexWorld.synchronizeRelease at performed
  split at performed
  · rename_i handle running
    dsimp only at performed
    generalize (if scene.initialized (scene.contextHost context) = true then status
      else StatusCode.failedPrecondition) = published at performed
    split at performed
    · obtain rfl := Option.some.inj performed
      exact .unlockReturned context handle published rfl
    · obtain ⟨held, -, rfl⟩ := Option.map_eq_some_iff.mp performed
      exact .silent rfl
  · cases performed

theorem advance (performed : world.advance scene context = some after) : Shows world after := by
  cases running : world.phase context with
  | idle | publishing => simp [MutexWorld.advance, running] at performed
  | parked handle =>
      simp only [MutexWorld.advance, running] at performed
      obtain ⟨impl, -, opened⟩ := Option.bind_eq_some_iff.mp performed
      split at opened
      · cases opened
      · obtain rfl := Option.some.inj opened
        exact .silent rfl
  | acquiring handle attempt =>
      simp only [MutexWorld.advance, running] at performed
      split at performed
      · obtain ⟨status, tokens, -, rfl⟩ := MutexInv.call_some performed
        exact .silent rfl
      · obtain rfl := Option.some.inj performed
        exact .silent rfl
  | waiting handle attempt requestId =>
      simp only [MutexWorld.advance, running] at performed
      obtain ⟨status, tokens, -, rfl⟩ := MutexInv.call_some performed
      unfold afterWait
      split
      · exact .silent rfl
      · exact .silent rfl
  | cancelling handle attempt requestId status | awaitingCancel handle attempt requestId status =>
      simp only [MutexWorld.advance, running] at performed
      obtain ⟨status, tokens, -, rfl⟩ := MutexInv.call_some performed
      exact .silent rfl
  | synchronizing handle =>
      simp only [MutexWorld.advance, running] at performed
      split at performed
      · obtain rfl := Option.some.inj performed
        exact returnLock rfl context handle .ok
      · obtain rfl := Option.some.inj performed
        exact .silent rfl
  | undoing handle status =>
      simp only [MutexWorld.advance, running] at performed
      obtain ⟨impl, -, rfl⟩ := Option.map_eq_some_iff.mp performed
      split
      · refine returnLock ?_ context handle status
        rfl
      · split
        · exact .silent rfl
        · exact .silent rfl
  | releasing handle held purpose =>
      simp only [MutexWorld.advance, running] at performed
      obtain ⟨status, tokens, -, rfl⟩ := MutexInv.call_some performed
      exact .silent rfl
  | storing handle held purpose =>
      simp only [MutexWorld.advance, running] at performed
      obtain ⟨status, tokens, -, rfl⟩ := MutexInv.call_some performed
      refine afterRelease ?_ context handle purpose status.code
      rfl
  | abandoning handle held purpose code =>
      simp only [MutexWorld.advance, running] at performed
      obtain ⟨status, tokens, -, rfl⟩ := MutexInv.call_some performed
      refine afterRelease ?_ context handle purpose code
      rfl

theorem step {op : MutexOp cluster} (performed : world.step scene op = some after) :
    Shows world after := by
  cases op with
  | attach host =>
      obtain rfl := Option.some.inj performed
      exact .silent rfl
  | lock context handle attempt =>
      obtain ⟨impl, -, rfl⟩ := Option.map_eq_some_iff.mp performed
      exact lock world context handle impl attempt
  | unlock context handle =>
      obtain ⟨impl, -, rfl⟩ := Option.map_eq_some_iff.mp performed
      exact unlock world context handle impl
  | advance context => exact advance performed
  | synchronizeRelease context status => exact synchronizeRelease performed
  | progress host | publish source destination | deliver source destination =>
      simp only [MutexWorld.step] at performed
      obtain ⟨status, tokens, -, rfl⟩ := MutexInv.call_some performed
      exact .silent rfl

end Shows

/-- A lock returns to a context that runs no call. -/
theorem idle_of_lockReturned {op : MutexOp cluster} {context handle : Nat} {status : StatusCode}
    (performed : world.step scene op = some after)
    (returned : after.history = .lockReturned context handle status :: world.history) :
    after.phase context = .idle := by
  cases Shows.step performed with
  | silent same =>
      rw [same] at returned
      exact (List.cons_ne_self _ _ returned.symm).elim
  | lockReturned other otherHandle otherStatus event idle =>
      rw [event] at returned
      obtain ⟨rfl, -⟩ : other = context ∧ _ := by simpa using returned
      exact idle
  | unlockCalled other otherHandle event =>
      rw [event] at returned
      simp at returned
  | unlockRejected other otherHandle otherStatus event
  | unlockReturned other otherHandle otherStatus event =>
      rw [event] at returned
      simp at returned

/-- In every run of locks, trylocks and unlocks on a created mutex: two contexts never lie inside at
the same time; a lock that fails leaves its context without a call, with the gate of the handle only
if the context holds the handle since before, and with every lease for the mutex belonging to a
running call or to the holder of a handle; and an unlock by a context that does not hold the handle
is rejected without effect. -/
theorem cross_host_exclusion (created : Created scene start)
    (execution : Reaches scene start world) :
    (∀ first second one two, Inside world.history first one → Inside world.history second two →
      first = second ∧ one = two) ∧
    (∀ op after context handle status, world.step scene op = some after →
      after.history = .lockReturned context handle status :: world.history → status ≠ .ok →
        after.phase context = .idle ∧
        (∀ impl, after.handles[handle]? = some impl → impl.locked = true → impl.owner = context →
          Holds world.history context handle) ∧
        ∀ holder,
          (after.tokens.state.leaseFor after.tokens.leased scene.key holder).isSome = true →
            ∃ other, after.Accounts scene other holder) ∧
    ∀ context handle after, ¬Holds world.history context handle →
      world.step scene (.unlock context handle) = some after →
        after.handles = world.handles ∧ after.tokens = world.tokens ∧ after.phase = world.phase ∧
        after.history = .unlockReturned context handle .failedPrecondition ::
          .unlockCalled context handle :: world.history := by
  have inv := reaches_inv created execution
  refine ⟨?_, ?_, ?_⟩
  · intro first second one two firstInside secondInside
    exact holder_unique inv (inv.gates.inside first one firstInside).1
      (inv.gates.inside second two secondInside).1
  · intro op after context handle status performed returned failed
    have later := inv.step performed
    have idle := idle_of_lockReturned performed returned
    refine ⟨idle, ?_, fun holder leased => lease_accounted later leased⟩
    intro impl found locked owner
    have reason := later.gates.closed handle impl found locked
    rw [owner, idle, returned, holds_cons] at reason
    rcases reason with gate | now | ⟨-, before_⟩
    · cases gate
    · exact (failed (by simpa using now)).elim
    · exact before_
  · intro context handle after unheld performed
    obtain ⟨impl, usable, rfl⟩ := Option.map_eq_some_iff.mp performed
    obtain ⟨found, -, idle⟩ := MutexInv.usable_some usable
    have foreign : ¬impl.locked = true ∨ impl.owner ≠ context := by
      rw [← not_and_or]
      rintro ⟨locked, owner⟩
      have reason := inv.gates.closed handle impl found locked
      rw [owner, idle] at reason
      exact unheld (reason.resolve_left (by simp [MutexPhase.gate]))
    simp only [MutexWorld.unlock, if_pos foreign]
    refine ⟨rfl, rfl, ?_, rfl⟩
    simp [MutexWorld.returnUnlock, record, setPhase, ← idle]

/-! ## A contended mutex -/

open TokenConfig in
/-- The mutex of the first host's object; the first context runs there, the others on the second
host. -/
def contended : MutexScene threeHosts where
  object := onlyBlock.object
  contextHost := fun context => if context = 1 then host0 else host1
  initialized := fun _ => true

open TokenConfig in
/-- The mutex right after its creation. -/
def contendedStart : MutexWorld threeHosts where
  tokens := threeHostsInitial
  handles := [.fresh host0]
  phase := fun _ => .idle
  history := []

open TokenConfig in
/-- The first context locks; the trylock of the second one times out and is cancelled, and its
unlock is rejected; then the first one unlocks and the second one locks. -/
def contendedOps : List (MutexOp threeHosts) :=
  [.attach host1, .lock 1 0 false, .advance 1, .advance 1, .advance 1, .lock 2 1 true, .advance 2,
    .advance 2, .advance 2, .deliver host1 host0, .deliver host1 host0, .deliver host0 host1,
    .advance 2, .advance 2, .unlock 2 1, .unlock 1 0, .synchronizeRelease 1 .ok, .advance 1,
    .advance 1, .lock 2 1 false, .advance 2, .deliver host1 host0, .deliver host0 host1,
    .advance 2, .advance 2]

theorem contended_created : Created contended contendedStart where
  tokens := ⟨TokenConfig.firstOwns, .refl⟩
  unleased _ _ := rfl
  unrequested _ _ := rfl
  silent _ _ := rfl
  unqueued _ _ := rfl
  even := rfl
  handles := ⟨TokenConfig.host0, rfl⟩
  idle _ := rfl
  history := rfl

theorem cross_host_exclusion_contended :
    ∃ world, runOps contended contendedStart contendedOps = some world ∧
      world.history =
        [.lockReturned 2 1 .ok, .unlockReturned 1 0 .ok, .unlockCalled 1 0,
          .unlockReturned 2 1 .failedPrecondition, .unlockCalled 2 1,
          .lockReturned 2 1 .unavailable, .lockReturned 1 0 .ok] ∧
      ∀ context handle, Inside world.history context handle → context = 2 ∧ handle = 1 := by
  have holds : (runOps contended contendedStart contendedOps).any (fun world => world.history =
      [.lockReturned 2 1 .ok, .unlockReturned 1 0 .ok, .unlockCalled 1 0,
        .unlockReturned 2 1 .failedPrecondition, .unlockCalled 2 1,
        .lockReturned 2 1 .unavailable, .lockReturned 1 0 .ok]) = true := by
    decide +kernel
  obtain ⟨world, execution, history⟩ := (Option.any_eq_true _ _).mp holds
  have shown := of_decide_eq_true history
  have within : Inside world.history 2 1 := by
    rw [shown]
    decide
  exact ⟨world, execution, shown, fun context handle inside =>
    (cross_host_exclusion contended_created (Run.reaches_of_runLabels execution)).1 context 2
      handle 1 inside within⟩

end MutexWorld
end Cxloom.Api
