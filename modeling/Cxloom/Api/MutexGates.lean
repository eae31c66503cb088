import Cxloom.Api.Mutex

/-!
# The gates of a distributed mutex

Who has closed the gate of a handle.  A closed gate belongs to one context: either the context runs
a call on the handle, or it has locked the handle and not unlocked it since.  Nothing here depends
on the token services.
-/

namespace Cxloom.Api

open LoomMem

variable {cluster : Cluster}

/-! ## Histories -/

section Histories

variable {history : List MutexEvent} {event : MutexEvent} {context handle : Nat}

theorem inside_cons :
    Inside (event :: history) context handle ↔
      event = .lockReturned context handle .ok ∨
        event ≠ .unlockCalled context handle ∧ Inside history context handle := by
  by_cases locked : event = .lockReturned context handle .ok
  · simp [Inside, locked]
  · by_cases unlocking : event = .unlockCalled context handle
    · simp [Inside, unlocking]
    · simp [Inside, locked, unlocking]

theorem holds_cons :
    Holds (event :: history) context handle ↔
      event = .lockReturned context handle .ok ∨
        event ≠ .unlockReturned context handle .ok ∧ Holds history context handle := by
  by_cases locked : event = .lockReturned context handle .ok
  · simp [Holds, locked]
  · by_cases unlocked : event = .unlockReturned context handle .ok
    · simp [Holds, unlocked]
    · simp [Holds, locked, unlocked]

theorem not_inside_nil : ¬Inside [] context handle := by
  simp [Inside]

theorem not_holds_nil : ¬Holds [] context handle := by
  simp [Holds]

end Histories

namespace MutexPhase

/-- Handle whose gate the running call has closed. -/
def gate : MutexPhase → Option Nat
  | idle | parked _ => none
  | acquiring handle _ | waiting handle _ _ | cancelling handle _ _ _ | awaitingCancel handle _ _ _
  | synchronizing handle | undoing handle _ | publishing handle | releasing handle _ _
  | storing handle _ _ | abandoning handle _ _ _ => some handle

/-- The running call is an unlock. -/
def unlocks : MutexPhase → Bool
  | publishing _ | releasing _ _ .unlock | storing _ _ .unlock | abandoning _ _ .unlock _ => true
  | idle | parked _ | acquiring _ _ | waiting _ _ _ | cancelling _ _ _ _ | awaitingCancel _ _ _ _
  | synchronizing _ | undoing _ _ | releasing _ _ (.undo _) | storing _ _ (.undo _)
  | abandoning _ _ (.undo _) _ => false

/-- What the running call relies on about the write buffer of its handle. -/
def Keeps : MutexPhase → Option HeldLease → Prop
  | idle, _ | parked _, _ => True
  | acquiring _ _, lease | waiting _ _ _, lease | cancelling _ _ _ _, lease
  | awaitingCancel _ _ _ _, lease | undoing _ _, lease => lease = none
  | synchronizing _, lease | publishing _, lease => lease.isSome = true
  | releasing _ held _, lease | storing _ held _, lease | abandoning _ held _ _, lease =>
      lease = some held

end MutexPhase

/-- A context has closed the gate of a handle. -/
structure MutexHandle.ClosedBy (scene : MutexScene cluster) (impl : MutexHandle cluster)
    (context : Nat) : Prop where
  host : impl.host = scene.contextHost context
  /-- The gate is closed. -/
  locked : impl.locked = true
  owner : impl.owner = context

/-- The gates agree with the running calls and with the history. -/
structure GateInv (scene : MutexScene cluster) (handles : List (MutexHandle cluster))
    (phase : Nat → MutexPhase) (history : List MutexEvent) : Prop where
  /-- A running call has closed its gate and finds the write buffer it relies on. -/
  fits : ∀ context handle, (phase context).gate = some handle →
    ∃ impl, handles[handle]? = some impl ∧ impl.ClosedBy scene context ∧
      (phase context).Keeps impl.lease
  /-- A lock waits at a handle of its host. -/
  parked : ∀ context handle, phase context = .parked handle →
    ∃ impl, handles[handle]? = some impl ∧ impl.host = scene.contextHost context
  unlocking : ∀ context handle, (phase context).gate = some handle →
    (phase context).unlocks = true → Holds history context handle
  opened : ∀ (handle : Nat) impl, handles[handle]? = some impl → impl.locked = false →
    impl.lease = none
  /-- A closed gate belongs to a running call or to the holder of the handle. -/
  closed : ∀ (handle : Nat) impl, handles[handle]? = some impl → impl.locked = true →
    (phase impl.owner).gate = some handle ∨ Holds history impl.owner handle
  /-- The holder of a handle has closed its gate, keeps a write buffer and does not lock it. -/
  held : ∀ context handle, Holds history context handle →
    (∃ impl, handles[handle]? = some impl ∧ impl.ClosedBy scene context ∧
      impl.lease.isSome = true) ∧
    ((phase context).gate = some handle → (phase context).unlocks = true)
  inside : ∀ context handle, Inside history context handle →
    Holds history context handle ∧ (phase context).gate ≠ some handle

namespace GateInv

variable {scene : MutexScene cluster} {handles : List (MutexHandle cluster)}
  {phase : Nat → MutexPhase} {history : List MutexEvent} {context handle : Nat}
  {impl : MutexHandle cluster}

/-- Only the context that closed a gate uses the handle. -/
theorem alone (inv : GateInv scene handles phase history) (found : handles[handle]? = some impl)
    {other : Nat} (different : impl.locked = true → impl.owner ≠ other) :
    (phase other).gate ≠ some handle ∧ ¬Holds history other handle := by
  constructor
  · intro gate
    obtain ⟨same, sameFound, closed, -⟩ := inv.fits other handle gate
    obtain rfl := Option.some.inj (found.symm.trans sameFound)
    exact different closed.locked closed.owner
  · intro holds
    obtain ⟨⟨same, sameFound, closed, -⟩, -⟩ := inv.held other handle holds
    obtain rfl := Option.some.inj (found.symm.trans sameFound)
    exact different closed.locked closed.owner

/-- One context acts on one handle that nobody else uses. -/
theorem act (inv : GateInv scene handles phase history) (found : handles[handle]? = some impl)
    (change : MutexHandle cluster → MutexHandle cluster) (host : (change impl).host = impl.host)
    (after : MutexPhase) (runs : ∀ other, after ≠ .parked other) {later : List MutexEvent}
    (alone : ∀ other, other ≠ context →
      (phase other).gate ≠ some handle ∧ ¬Holds history other handle)
    (holds : ∀ other otherHandle, (other ≠ context ∨ otherHandle ≠ handle) →
      (Holds later other otherHandle ↔ Holds history other otherHandle))
    (insides : ∀ other otherHandle, (other ≠ context ∨ otherHandle ≠ handle) →
      Inside later other otherHandle → Inside history other otherHandle)
    (before_ : ∀ other, (phase context).gate = some other → other = handle)
    (after_ : ∀ other, after.gate = some other → other = handle)
    (fits : after.gate = some handle →
      (change impl).ClosedBy scene context ∧ after.Keeps (change impl).lease)
    (unlocking : after.gate = some handle → after.unlocks = true → Holds later context handle)
    (opened : (change impl).locked = false → (change impl).lease = none)
    (closed : (change impl).locked = true → (change impl).owner = context ∧
      (after.gate = some handle ∨ Holds later context handle))
    (held : Holds later context handle → (change impl).ClosedBy scene context ∧
      (change impl).lease.isSome = true ∧ (after.gate = some handle → after.unlocks = true))
    (inside : Inside later context handle →
      Holds later context handle ∧ after.gate ≠ some handle) :
    GateInv scene (handles.modify handle change) (Function.update phase context after) later where
  fits := by
    intro other otherHandle gate
    by_cases mine : other = context
    · subst mine
      rw [Function.update_self] at gate ⊢
      obtain rfl := after_ otherHandle gate
      obtain ⟨closedBy, keeps⟩ := fits gate
      exact ⟨change impl, by simp [found], closedBy, keeps⟩
    · rw [Function.update_of_ne mine] at gate ⊢
      obtain ⟨same, sameFound, closedBy, keeps⟩ := inv.fits other otherHandle gate
      have apart : handle ≠ otherHandle := by
        rintro rfl
        exact (alone other mine).1 gate
      exact ⟨same, by rw [List.getElem?_modify_ne _ _ apart, sameFound], closedBy, keeps⟩
  parked := by
    intro other otherHandle waits
    by_cases mine : other = context
    · subst mine
      rw [Function.update_self] at waits
      exact (runs otherHandle waits).elim
    · rw [Function.update_of_ne mine] at waits
      obtain ⟨same, sameFound, local_⟩ := inv.parked other otherHandle waits
      by_cases here : handle = otherHandle
      · subst here
        obtain rfl := Option.some.inj (found.symm.trans sameFound)
        exact ⟨change impl, by simp [found], host.trans local_⟩
      · exact ⟨same, by rw [List.getElem?_modify_ne _ _ here, sameFound], local_⟩
  unlocking := by
    intro other otherHandle gate unlocks
    by_cases mine : other = context
    · subst mine
      rw [Function.update_self] at gate unlocks
      obtain rfl := after_ otherHandle gate
      exact unlocking gate unlocks
    · rw [Function.update_of_ne mine] at gate unlocks
      exact (holds other otherHandle (.inl mine)).mpr (inv.unlocking other otherHandle gate unlocks)
  opened := by
    intro otherHandle other otherFound free
    by_cases same : otherHandle = handle
    · subst same
      obtain rfl : change impl = other := by simpa [found] using otherFound
      exact opened free
    · rw [List.getElem?_modify_ne _ _ (Ne.symm same)] at otherFound
      exact inv.opened otherHandle other otherFound free
  closed := by
    intro otherHandle other otherFound shut
    by_cases same : otherHandle = handle
    · subst same
      obtain rfl : change impl = other := by simpa [found] using otherFound
      obtain ⟨owner, reason⟩ := closed shut
      rw [owner, Function.update_self]
      exact reason
    · rw [List.getElem?_modify_ne _ _ (Ne.symm same)] at otherFound
      rcases inv.closed otherHandle other otherFound shut with gate | kept
      · left
        have notMine : other.owner ≠ context := by
          intro mine
          rw [mine] at gate
          exact same (before_ otherHandle gate)
        rwa [Function.update_of_ne notMine]
      · exact .inr ((holds other.owner otherHandle (.inr same)).mpr kept)
  held := by
    intro other otherHandle kept
    by_cases here : other = context ∧ otherHandle = handle
    · obtain ⟨rfl, rfl⟩ := here
      obtain ⟨closedBy, lease, unlocks⟩ := held kept
      rw [Function.update_self]
      exact ⟨⟨change impl, by simp [found], closedBy, lease⟩, unlocks⟩
    · rw [not_and_or] at here
      have old := (holds other otherHandle here).mp kept
      obtain ⟨⟨same, sameFound, closedBy, lease⟩, unlocks⟩ := inv.held other otherHandle old
      have apart : handle ≠ otherHandle := by
        rintro rfl
        exact (alone other (here.resolve_right (by simp))).2 old
      refine ⟨⟨same, by rw [List.getElem?_modify_ne _ _ apart, sameFound], closedBy, lease⟩, ?_⟩
      intro gate
      by_cases mine : other = context
      · subst mine
        rw [Function.update_self] at gate
        exact (apart (after_ otherHandle gate).symm).elim
      · rw [Function.update_of_ne mine] at gate ⊢
        exact unlocks gate
  inside := by
    intro other otherHandle within
    by_cases here : other = context ∧ otherHandle = handle
    · obtain ⟨rfl, rfl⟩ := here
      rw [Function.update_self]
      exact inside within
    · rw [not_and_or] at here
      obtain ⟨old, gate⟩ := inv.inside other otherHandle (insides other otherHandle here within)
      refine ⟨(holds other otherHandle here).mpr old, ?_⟩
      by_cases mine : other = context
      · subst mine
        rw [Function.update_self]
        intro taken
        exact (here.resolve_left (by simp)) (after_ otherHandle taken)
      · rwa [Function.update_of_ne mine]

/-! ## Changes that concern no gate -/

/-- A change of a handle that its users do not notice. -/
theorem modify (inv : GateInv scene handles phase history) (handle : Nat)
    {change : MutexHandle cluster → MutexHandle cluster}
    (same : ∀ impl, (change impl).host = impl.host ∧ (change impl).locked = impl.locked ∧
      (change impl).owner = impl.owner ∧ (change impl).lease = impl.lease) :
    GateInv scene (handles.modify handle change) phase history := by
  have forward : ∀ (other : Nat) impl, handles[other]? = some impl →
      ∃ impl', (handles.modify handle change)[other]? = some impl' ∧ impl'.host = impl.host ∧
        impl'.locked = impl.locked ∧ impl'.owner = impl.owner ∧ impl'.lease = impl.lease := by
    intro other impl found
    by_cases here : handle = other
    · exact ⟨change impl, by simp [here, found], same impl⟩
    · exact ⟨impl, by rw [List.getElem?_modify_ne _ _ here, found], rfl, rfl, rfl, rfl⟩
  have backward : ∀ (other : Nat) impl', (handles.modify handle change)[other]? = some impl' →
      ∃ impl, handles[other]? = some impl ∧ impl'.locked = impl.locked ∧
        impl'.owner = impl.owner ∧ impl'.lease = impl.lease := by
    intro other impl' found
    by_cases here : handle = other
    · subst here
      obtain ⟨impl, old, rfl⟩ : ∃ impl, handles[handle]? = some impl ∧ change impl = impl' := by
        simpa using found
      exact ⟨impl, old, (same impl).2⟩
    · rw [List.getElem?_modify_ne _ _ here] at found
      exact ⟨impl', found, rfl, rfl, rfl⟩
  refine ⟨?_, ?_, inv.unlocking, ?_, ?_, ?_, inv.inside⟩
  · intro context other gate
    obtain ⟨impl, found, closedBy, keeps⟩ := inv.fits context other gate
    obtain ⟨impl', found', host, locked, owner, lease⟩ := forward other impl found
    exact ⟨impl', found', ⟨host.trans closedBy.host, locked.trans closedBy.locked,
      owner.trans closedBy.owner⟩, lease ▸ keeps⟩
  · intro context other waits
    obtain ⟨impl, found, local_⟩ := inv.parked context other waits
    obtain ⟨impl', found', host, -⟩ := forward other impl found
    exact ⟨impl', found', host.trans local_⟩
  · intro other impl' found' free
    obtain ⟨impl, found, locked, -, lease⟩ := backward other impl' found'
    exact lease.trans (inv.opened other impl found (locked.symm.trans free))
  · intro other impl' found' shut
    obtain ⟨impl, found, locked, owner, -⟩ := backward other impl' found'
    rw [owner]
    exact inv.closed other impl found (locked.symm.trans shut)
  · intro context other holds
    obtain ⟨⟨impl, found, closedBy, lease⟩, unlocks⟩ := inv.held context other holds
    obtain ⟨impl', found', host, locked, owner, same⟩ := forward other impl found
    exact ⟨⟨impl', found', ⟨host.trans closedBy.host, locked.trans closedBy.locked,
      owner.trans closedBy.owner⟩, same ▸ lease⟩, unlocks⟩

/-- A new handle has an open gate. -/
theorem attach (inv : GateInv scene handles phase history) (host : cluster.Host) :
    GateInv scene (handles ++ [.fresh host]) phase history := by
  have forward : ∀ (other : Nat) impl, handles[other]? = some impl →
      (handles ++ [MutexHandle.fresh host])[other]? = some impl := by
    intro other impl found
    rw [List.getElem?_append_left (List.getElem?_eq_some_iff.mp found).1, found]
  have backward : ∀ (other : Nat) impl, (handles ++ [MutexHandle.fresh host])[other]? = some impl →
      handles[other]? = some impl ∨ impl = .fresh host := by
    intro other impl found
    rw [List.getElem?_append] at found
    split at found
    · exact .inl found
    · exact .inr (List.mem_singleton.mp (List.mem_of_getElem? found))
  refine ⟨?_, ?_, inv.unlocking, ?_, ?_, ?_, inv.inside⟩
  · intro context other gate
    obtain ⟨impl, found, rest⟩ := inv.fits context other gate
    exact ⟨impl, forward other impl found, rest⟩
  · intro context other waits
    obtain ⟨impl, found, local_⟩ := inv.parked context other waits
    exact ⟨impl, forward other impl found, local_⟩
  · intro other impl found free
    rcases backward other impl found with old | rfl
    · exact inv.opened other impl old free
    · rfl
  · intro other impl found shut
    rcases backward other impl found with old | rfl
    · exact inv.closed other impl old shut
    · cases shut
  · intro context other holds
    obtain ⟨⟨impl, found, rest⟩, unlocks⟩ := inv.held context other holds
    exact ⟨⟨impl, forward other impl found, rest⟩, unlocks⟩

/-- A call goes on with the gate that it has. -/
theorem setPhase (inv : GateInv scene handles phase history) {after : MutexPhase}
    (gate : after.gate = (phase context).gate) (unlocks : after.unlocks = (phase context).unlocks)
    (keeps : ∀ handle impl, (phase context).gate = some handle → handles[handle]? = some impl →
      (phase context).Keeps impl.lease → after.Keeps impl.lease)
    (parks : ∀ handle, after = .parked handle →
      ∃ impl, handles[handle]? = some impl ∧ impl.host = scene.contextHost context) :
    GateInv scene handles (Function.update phase context after) history := by
  have gates : ∀ other, (Function.update phase context after other).gate = (phase other).gate := by
    intro other
    by_cases mine : other = context
    · rw [mine, Function.update_self, gate]
    · rw [Function.update_of_ne mine]
  have kinds : ∀ other,
      (Function.update phase context after other).unlocks = (phase other).unlocks := by
    intro other
    by_cases mine : other = context
    · rw [mine, Function.update_self, unlocks]
    · rw [Function.update_of_ne mine]
  refine ⟨?_, ?_, ?_, inv.opened, ?_, ?_, ?_⟩
  · intro other handle taken
    rw [gates] at taken
    obtain ⟨impl, found, closedBy, relied⟩ := inv.fits other handle taken
    refine ⟨impl, found, closedBy, ?_⟩
    by_cases mine : other = context
    · subst mine
      rw [Function.update_self]
      exact keeps handle impl taken found relied
    · rwa [Function.update_of_ne mine]
  · intro other handle waits
    by_cases mine : other = context
    · subst mine
      rw [Function.update_self] at waits
      exact parks handle waits
    · rw [Function.update_of_ne mine] at waits
      exact inv.parked other handle waits
  · intro other handle
    rw [gates, kinds]
    exact inv.unlocking other handle
  · intro handle impl found shut
    rw [gates]
    exact inv.closed handle impl found shut
  · intro other handle holds
    rw [gates, kinds]
    exact inv.held other handle holds
  · intro other handle within
    rw [gates]
    exact inv.inside other handle within

/-- An event that neither locks nor unlocks a handle. -/
theorem record (inv : GateInv scene handles phase history) {event : MutexEvent}
    (holds : ∀ context handle, Holds (event :: history) context handle ↔
      Holds history context handle)
    (insides : ∀ context handle, Inside (event :: history) context handle →
      Inside history context handle) :
    GateInv scene handles phase (event :: history) where
  fits := inv.fits
  parked := inv.parked
  unlocking context handle gate unlocks :=
    (holds context handle).mpr (inv.unlocking context handle gate unlocks)
  opened := inv.opened
  closed handle impl found shut :=
    (inv.closed handle impl found shut).imp_right (holds impl.owner handle).mpr
  held context handle kept := inv.held context handle ((holds context handle).mp kept)
  inside context handle within :=
    (inv.inside context handle (insides context handle within)).imp_left
      (holds context handle).mpr

theorem refuse (inv : GateInv scene handles phase history) (context handle : Nat)
    {status : StatusCode} (failed : status ≠ .ok) :
    GateInv scene handles phase (.lockReturned context handle status :: history) :=
  inv.record (by simp [holds_cons, failed]) (by simp [inside_cons, failed])

/-- An unlock begins. -/
theorem call (inv : GateInv scene handles phase history) (context handle : Nat) :
    GateInv scene handles phase (.unlockCalled context handle :: history) :=
  inv.record (by simp [holds_cons]) fun _ _ within =>
    ((inside_cons.mp within).resolve_left (by simp)).2

theorem reject (inv : GateInv scene handles phase history) (context handle : Nat)
    {status : StatusCode} (failed : status ≠ .ok) :
    GateInv scene handles phase (.unlockReturned context handle status :: history) :=
  inv.record (by simp [holds_cons, failed]) (by simp [inside_cons])

/-! ## Gates -/

/-- A running call is alone with its handle. -/
theorem alone_of_gate (inv : GateInv scene handles phase history)
    (gate : (phase context).gate = some handle) (other : Nat) (different : other ≠ context) :
    (phase other).gate ≠ some handle ∧ ¬Holds history other handle := by
  obtain ⟨impl, found, closedBy, -⟩ := inv.fits context handle gate
  exact inv.alone found fun _ => closedBy.owner.trans_ne different.symm

theorem close (inv : GateInv scene handles phase history) (found : handles[handle]? = some impl)
    (local_ : impl.host = scene.contextHost context) (free : impl.locked = false)
    (before_ : (phase context).gate = none) (attempt : Bool)
    {change : MutexHandle cluster → MutexHandle cluster} (host : (change impl).host = impl.host)
    (locked : (change impl).locked = true) (owner : (change impl).owner = context)
    (lease : (change impl).lease = impl.lease) :
    GateInv scene (handles.modify handle change)
      (Function.update phase context (.acquiring handle attempt)) history := by
  have alone : ∀ other, (phase other).gate ≠ some handle ∧ ¬Holds history other handle :=
    fun other => inv.alone found fun shut => by simp [free] at shut
  have closedBy : (change impl).ClosedBy scene context := ⟨host.trans local_, locked, owner⟩
  refine inv.act found change host (.acquiring handle attempt)
    (by simp) (fun other _ => alone other)
    (fun _ _ _ => .rfl) (fun _ _ _ => id) (by simp [before_]) ?_ ?_ ?_ ?_ ?_ ?_ ?_
  · intro other gate
    exact (Option.some.inj gate).symm
  · exact fun _ => ⟨closedBy, lease.trans (inv.opened handle impl found free)⟩
  · intro _ unlocks
    cases unlocks
  · intro shut
    rw [locked] at shut
    cases shut
  · exact fun _ => ⟨owner, .inl rfl⟩
  · exact fun holds => ((alone context).2 holds).elim
  · exact fun within => ((alone context).2 (inv.inside context handle within).1).elim

theorem keepLease (inv : GateInv scene handles phase history)
    (gate : (phase context).gate = some handle) (locks : (phase context).unlocks = false)
    (held : HeldLease) :
    GateInv scene (handles.modify handle (MutexWorld.setLease (some held)))
      (Function.update phase context (.synchronizing handle)) history := by
  obtain ⟨impl, found, closedBy, -⟩ := inv.fits context handle gate
  have unheld : ¬Holds history context handle := by
    intro holds
    rw [(inv.held context handle holds).2 gate] at locks
    cases locks
  refine inv.act found _ rfl (.synchronizing handle) (by simp) (inv.alone_of_gate gate)
    (fun _ _ _ => .rfl) (fun _ _ _ => id) ?_ ?_ ?_ ?_ ?_ ?_ ?_ ?_
  · intro other same
    exact Option.some.inj (same.symm.trans gate)
  · intro other same
    exact (Option.some.inj same).symm
  · exact fun _ => ⟨⟨closedBy.host, closedBy.locked, closedBy.owner⟩, rfl⟩
  · intro _ unlocks
    cases unlocks
  · intro free
    exact (Bool.false_ne_true (free.symm.trans closedBy.locked)).elim
  · exact fun _ => ⟨closedBy.owner, .inl rfl⟩
  · exact fun holds => (unheld holds).elim
  · exact fun within => (unheld (inv.inside context handle within).1).elim

/-- A lock that has its lease returns with success. -/
theorem acquire (inv : GateInv scene handles phase history)
    (running : phase context = .synchronizing handle) :
    GateInv scene handles (Function.update phase context .idle)
      (.lockReturned context handle .ok :: history) := by
  have gate : (phase context).gate = some handle := by
    rw [running]
    rfl
  obtain ⟨impl, found, closedBy, keeps⟩ := inv.fits context handle gate
  have lease : impl.lease.isSome = true := by
    rw [running] at keeps
    exact keeps
  have elsewhere : ∀ other otherHandle, (other ≠ context ∨ otherHandle ≠ handle) →
      ¬(context = other ∧ handle = otherHandle) := by
    rintro other otherHandle (different | different) ⟨rfl, rfl⟩
    · exact different rfl
    · exact different rfl
  rw [← List.modify_id handle handles]
  refine inv.act found id rfl .idle
    (by simp) (inv.alone_of_gate gate) ?_ ?_ ?_ (by simp [MutexPhase.gate])
    (by simp [MutexPhase.gate]) (by simp [MutexPhase.gate]) ?_ ?_ ?_ ?_
  · intro other otherHandle apart
    simp [holds_cons, elsewhere other otherHandle apart]
  · intro other otherHandle apart
    simp [inside_cons, elsewhere other otherHandle apart]
  · intro other same
    exact Option.some.inj (same.symm.trans gate)
  · intro free
    exact (Bool.false_ne_true (free.symm.trans closedBy.locked)).elim
  · exact fun _ => ⟨closedBy.owner, .inr (holds_cons.mpr (.inl rfl))⟩
  · exact fun _ => ⟨closedBy, lease, by simp [MutexPhase.gate]⟩
  · exact fun _ => ⟨holds_cons.mpr (.inl rfl), by simp [MutexPhase.gate]⟩

theorem undo (inv : GateInv scene handles phase history) {status : StatusCode}
    (running : phase context = .undoing handle status) (failed : status ≠ .ok) :
    GateInv scene (handles.modify handle MutexWorld.open_) (Function.update phase context .idle)
      (.lockReturned context handle status :: history) := by
  have gate : (phase context).gate = some handle := by
    rw [running]
    rfl
  obtain ⟨impl, found, closedBy, keeps⟩ := inv.fits context handle gate
  have lease : impl.lease = none := by
    rw [running] at keeps
    exact keeps
  have unheld : ¬Holds history context handle := by
    intro holds
    have unlocks := (inv.held context handle holds).2 gate
    rw [running] at unlocks
    cases unlocks
  have still : ¬Holds (.lockReturned context handle status :: history) context handle := by
    simp [holds_cons, failed, unheld]
  refine inv.act found _ rfl .idle
    (by simp) (inv.alone_of_gate gate) ?_ ?_ ?_ (by simp [MutexPhase.gate])
    (by simp [MutexPhase.gate]) (by simp [MutexPhase.gate]) (fun _ => lease) ?_ ?_ ?_
  · intro other otherHandle _
    simp [holds_cons, failed]
  · intro other otherHandle _
    simp [inside_cons, failed]
  · intro other same
    exact Option.some.inj (same.symm.trans gate)
  · intro shut
    cases shut
  · exact fun holds => (still holds).elim
  · intro within
    have old : Inside history context handle := by simpa [inside_cons, failed] using within
    exact (unheld (inv.inside context handle old).1).elim

theorem beginUnlock (inv : GateInv scene handles phase history)
    (found : handles[handle]? = some impl) (closedBy : impl.ClosedBy scene context)
    (before_ : (phase context).gate = none) :
    GateInv scene handles (Function.update phase context (.publishing handle))
      (.unlockCalled context handle :: history) := by
  have holds : Holds history context handle := by
    have reason := inv.closed handle impl found closedBy.locked
    rw [closedBy.owner, before_] at reason
    exact reason.resolve_left (by simp)
  obtain ⟨⟨same, sameFound, -, lease⟩, -⟩ := inv.held context handle holds
  obtain rfl := Option.some.inj (found.symm.trans sameFound)
  have now : Holds (.unlockCalled context handle :: history) context handle :=
    holds_cons.mpr (.inr ⟨by simp, holds⟩)
  rw [← List.modify_id handle handles]
  refine inv.act found id rfl (.publishing handle)
    (by simp) ?_ ?_ ?_ (by simp [before_]) ?_ ?_ (fun _ _ => now)
    ?_ ?_ ?_ ?_
  · exact fun other different => inv.alone found fun _ => closedBy.owner.trans_ne different.symm
  · intro other otherHandle _
    simp [holds_cons]
  · exact fun _ _ _ within => ((inside_cons.mp within).resolve_left (by simp)).2
  · intro other gate
    exact (Option.some.inj gate).symm
  · exact fun _ => ⟨closedBy, lease⟩
  · intro free
    exact (Bool.false_ne_true (free.symm.trans closedBy.locked)).elim
  · exact fun _ => ⟨closedBy.owner, .inl rfl⟩
  · exact fun _ => ⟨closedBy, lease, fun _ => rfl⟩
  · intro within
    exact (((inside_cons.mp within).resolve_left (by simp)).1 rfl).elim

/-- An unlock fails and the handle stays locked. -/
theorem failUnlock (inv : GateInv scene handles phase history)
    (gate : (phase context).gate = some handle) (unlocks : (phase context).unlocks = true)
    {status : StatusCode} (failed : status ≠ .ok) :
    GateInv scene handles (Function.update phase context .idle)
      (.unlockReturned context handle status :: history) := by
  have holds := inv.unlocking context handle gate unlocks
  obtain ⟨⟨impl, found, closedBy, lease⟩, -⟩ := inv.held context handle holds
  have now : Holds (.unlockReturned context handle status :: history) context handle :=
    holds_cons.mpr (.inr ⟨by simp [failed], holds⟩)
  rw [← List.modify_id handle handles]
  refine inv.act found id rfl .idle
    (by simp) (inv.alone_of_gate gate) ?_ ?_ ?_ (by simp [MutexPhase.gate])
    (by simp [MutexPhase.gate]) (by simp [MutexPhase.gate]) ?_ ?_ ?_ ?_
  · intro other otherHandle _
    simp [holds_cons, failed]
  · intro other otherHandle _
    simp [inside_cons]
  · intro other same
    exact Option.some.inj (same.symm.trans gate)
  · intro free
    exact (Bool.false_ne_true (free.symm.trans closedBy.locked)).elim
  · exact fun _ => ⟨closedBy.owner, .inr now⟩
  · exact fun _ => ⟨closedBy, lease, by simp [MutexPhase.gate]⟩
  · exact fun _ => ⟨now, by simp [MutexPhase.gate]⟩

theorem finishUnlock (inv : GateInv scene handles phase history)
    (gate : (phase context).gate = some handle) :
    GateInv scene
      (handles.modify handle (MutexWorld.open_ ∘ MutexWorld.setLease none))
      (Function.update phase context .idle) (.unlockReturned context handle .ok :: history) := by
  obtain ⟨impl, found, -, -⟩ := inv.fits context handle gate
  have gone : ¬Holds (.unlockReturned context handle .ok :: history) context handle := by
    simp [holds_cons]
  refine inv.act found _ rfl .idle
    (by simp) (inv.alone_of_gate gate) ?_ ?_ ?_ (by simp [MutexPhase.gate])
    (by simp [MutexPhase.gate]) (by simp [MutexPhase.gate]) (fun _ => rfl) ?_ ?_ ?_
  · rintro other otherHandle (different | different)
    · simp [holds_cons, different.symm]
    · simp [holds_cons, different.symm]
  · intro other otherHandle _
    simp [inside_cons]
  · intro other same
    exact Option.some.inj (same.symm.trans gate)
  · intro shut
    cases shut
  · exact fun holds => (gone holds).elim
  · intro within
    have old : Inside history context handle := by simpa [inside_cons] using within
    exact ((inv.inside context handle old).2 gate).elim

end GateInv
end Cxloom.Api
