import Cxloom.LoomMem.AllocatorPools

/-!
# Retirement of forged objects

`Describe` and `AcquireReference` look an object up in the slot table before they read the
descriptor below it.  `BeginRetire` reads the bytes below its pointer without that check, so it
accepts a pointer into the payload of an object once an application has written there what passes
for a descriptor. The rest of such a descriptor can lie in the descriptor of the next object, which
the retirement then damages.
-/

namespace Cxloom.LoomMem.Allocator

variable {layout : AllocatorLayout} {state : Allocator} {host : HostId} {object : GlobalPointer}
  {hostCount : Nat}

/-- The pointer is the base of a published object that is allocated and that a host owns. -/
structure RealAllocation (layout : AllocatorLayout) (state : Allocator) (host : HostId)
    (object : GlobalPointer) : Prop where
  /-- The pointer is into the mapped region. -/
  region : object.regionId = 0
  /-- A slot holds the pointer. -/
  published : Published layout state object.offset
  allocated : descriptor state.memory object.offset .state = AllocationState.allocated.code
  owner : descriptor state.memory object.offset .ownerHost = host.val

/-- A call of `BeginRetire` starts a transaction only for a real object; while the control is idle,
it fails for every other pointer and leaves the control idle. -/
structure RetiresOnlyReal (layout : AllocatorLayout) (state : Allocator) (host : HostId)
    (object : GlobalPointer) (hostCount : Nat) : Prop where
  /-- A new transaction is about a real object. -/
  started :
    (beginRetire layout state host object hostCount).2.retirement.current ≠
        state.retirement.current →
      RealAllocation layout state host object
  refused : state.retirement.current.phase = .idle → ¬RealAllocation layout state host object →
    (∃ status, (beginRetire layout state host object hostCount).1 = some (.error status)) ∧
      (beginRetire layout state host object hostCount).2.retirement.current.phase = .idle

/-- The bytes below a pointer that no slot holds pass for a descriptor that the caller may retire.
-/
structure Forged (layout : AllocatorLayout) (state : Allocator) (host : HostId)
    (object : GlobalPointer) (hostCount : Nat) : Prop
    extends Starts layout state host object hostCount where
  /-- No slot holds the pointer. -/
  unpublished : ¬Published layout state object.offset

theorem Starts.real (starts : Starts layout state host object hostCount)
    (published : Published layout state object.offset) :
    RealAllocation layout state host object := by
  refine ⟨starts.region, published, ?_, starts.owner⟩
  rcases starts.accepted.state with allocated | ⟨retiring, -⟩
  · exact allocated
  · cases retiring

theorem startedControl_ne (state : Allocator) (host : HostId) (object : GlobalPointer)
    (hostCount : Nat) :
    (startedControl state host object hostCount).current ≠ state.retirement.current := by
  intro same
  have sequence : state.retirement.current.sequence + 1 = state.retirement.current.sequence :=
    congrArg RetirementSnapshot.sequence same
  omega

/-- In every state of every run, `BeginRetire` retires real objects only, unless the bytes below its
pointer pass for a descriptor although no slot holds the pointer. -/
theorem beginRetire_retiresOnlyReal (reachable : Reachable layout state) (host : HostId)
    (object : GlobalPointer) (hostCount : Nat) :
    RetiresOnlyReal layout state host object hostCount ↔
      ¬Forged layout state host object hostCount := by
  have specified := beginRetire_spec reachable.ledger.formatted state host object hostCount
  constructor
  · rintro ⟨started, -⟩ ⟨starts, unpublished⟩
    refine unpublished (started ?_).published
    generalize (beginRetire layout state host object hostCount).1 = result at specified
    generalize (beginRetire layout state host object hostCount).2 = after at specified ⊢
    cases specified with
    | refuses _ other => exact (other starts).elim
    | resumes active => exact (active starts.idle).elim
    | waits | starts => exact startedControl_ne state host object hostCount
  · intro genuine
    have real : Starts layout state host object hostCount →
        RealAllocation layout state host object := by
      intro starts
      by_cases published : Published layout state object.offset
      · exact starts.real published
      · exact (genuine ⟨starts, published⟩).elim
    constructor
    all_goals
      generalize (beginRetire layout state host object hostCount).1 = result at specified ⊢
      generalize (beginRetire layout state host object hostCount).2 = after at specified ⊢
    · intro changed
      cases specified with
      | refuses | resumes => exact (changed rfl).elim
      | waits starts | starts starts => exact real starts
    · intro idle other
      cases specified with
      | refuses status => exact ⟨⟨status, rfl⟩, idle⟩
      | resumes active => exact (active idle).elim
      | waits starts | starts starts => exact (other (real starts)).elim

/-- The object of the small region is published, so its owner may retire it. -/
theorem beginRetire_retiresOnlyReal_smallAllocated :
    ¬Forged smallLayout smallAllocated smallHost ⟨0, 8832⟩ 1 ∧
      RetiresOnlyReal smallLayout smallAllocated smallHost ⟨0, 8832⟩ 1 := by
  have genuine : ¬Forged smallLayout smallAllocated smallHost ⟨0, 8832⟩ 1 :=
    fun forged => forged.unpublished (by decide +kernel)
  exact ⟨genuine, (beginRetire_retiresOnlyReal reachable_smallAllocated smallHost _ 1).mpr genuine⟩

/-- An application allocates an object and writes a descriptor for the pointer 9472 into it. -/
def smallForgery : List Label :=
  .allocate smallHost 4096 ⟨2048, 64, 0⟩ ::
    [(8832, 0x42), (8833, 0x4f), (8834, 0x4d), (8835, 0x4f), (8836, 0x4f), (8837, 0x4c),
      (8838, 0x58), (8839, 0x43), (8840, 1), (8849, 0x25), (8856, 1)].map
      fun written => .applicationWrite written.1 written.2

/-- The owner of an object retires a pointer into its payload: a transaction starts for an object
that was never allocated. -/
theorem beginRetire_forged :
    ∃ state, Reachable smallLayout state ∧
      ¬Published smallLayout state 9472 ∧
      state.retirement.current.phase = .idle ∧
      (beginRetire smallLayout state smallHost ⟨0, 9472⟩ 1).2.retirement.current =
        ⟨.closing, ⟨0, 9472⟩, 1, smallHost, 1⟩ ∧
      ¬RetiresOnlyReal smallLayout state smallHost ⟨0, 9472⟩ 1 := by
  have enabled : (Run.runLabels (next smallLayout) smallRegion smallForgery).isSome := by
    decide +kernel
  obtain ⟨state, forged⟩ := Option.isSome_iff_exists.mp enabled
  have outcome : ∀ after ∈ Run.runLabels (next smallLayout) smallRegion smallForgery,
      ¬Published smallLayout after 9472 ∧ after.retirement.current.phase = .idle ∧
      (beginRetire smallLayout after smallHost ⟨0, 9472⟩ 1).2.retirement.current =
        ⟨.closing, ⟨0, 9472⟩, 1, smallHost, 1⟩ := by
    decide +kernel
  obtain ⟨unpublished, idle, started⟩ := outcome state forged
  refine ⟨state, ⟨fun _ => 0, smallRegion, rfl, Run.reaches_of_runLabels forged⟩, unpublished, idle,
    started, fun retires => unpublished (retires.started fun same => ?_).published⟩
  rw [started] at same
  rw [← same] at idle
  cases idle

end Cxloom.LoomMem.Allocator
