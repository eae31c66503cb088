import Cxloom.LoomMem.AllocatorDescriptors

/-!
# Steps of a retirement

What `BeginRetire`, `AcknowledgeRetirement` and the arithmetic of `Allocate` can do, case by case.
-/

namespace Cxloom.LoomMem.Allocator

variable {layout : AllocatorLayout} {state : Allocator} {host : HostId} {object : GlobalPointer}
  {hostCount : Nat}

/-! ## Begin -/

/-- A call of `BeginRetire` starts a transaction. -/
structure Starts (layout : AllocatorLayout) (state : Allocator) (host : HostId)
    (object : GlobalPointer) (hostCount : Nat) : Prop where
  /-- There are participants. -/
  count_pos : 0 < hostCount
  /-- There is a place for every participant. -/
  count_le : hostCount ≤ kMaxHosts
  /-- No other transaction is active. -/
  idle : state.retirement.current.phase = .idle
  /-- The pointer is into the mapped region. -/
  region : object.regionId = 0
  /-- The bytes below the pointer pass for the descriptor of an allocated object. -/
  accepted : Accepted layout state.memory object.offset false
  owner : descriptor state.memory object.offset .ownerHost = host.val
  sequence : state.retirement.current.sequence ≠ kUint64Max

/-- The control of a new transaction. -/
def startedControl (state : Allocator) (host : HostId) (object : GlobalPointer) (hostCount : Nat) :
    RetirementControl :=
  { state.retirement with
    current := ⟨.closing, object, state.retirement.current.sequence + 1, host, hostCount⟩
    closed := 0#64
    drained := 0#64
    cleaned := 0#64 }

/-- Results and states of `BeginRetire`. -/
inductive Begins (layout : AllocatorLayout) (state : Allocator) (host : HostId)
    (object : GlobalPointer) (hostCount : Nat) :
    Option (Except Status RetirementSnapshot) → Allocator → Prop
  /-- The call fails and changes nothing. -/
  | refuses (status : Status) (idle : ¬Starts layout state host object hostCount) :
      Begins layout state host object hostCount (some (.error status)) state
  /-- The coordinator of the current transaction gets it again. -/
  | resumes (active : state.retirement.current.phase ≠ .idle)
      (same : state.retirement.current.object = object)
      (coordinator : state.retirement.current.coordinator = host) :
      Begins layout state host object hostCount (some (.ok state.retirement.current)) state
  /-- A transaction starts, and the call waits for the lock word of the descriptor. -/
  | waits (starts : Starts layout state host object hostCount)
      (locked : descriptor state.memory object.offset .accessLock ≠ 0) :
      Begins layout state host object hostCount none
        { state with
          retirement := startedControl state host object hostCount
          extentLock := true }
  | starts (starts : Starts layout state host object hostCount)
      (unlocked : descriptor state.memory object.offset .accessLock = 0) :
      Begins layout state host object hostCount
        (some (.ok (startedControl state host object hostCount).current))
        { state with
          retirement := startedControl state host object hostCount
          memory := setDescriptor state.memory object.offset .state AllocationState.retiring.code }

theorem beginRetire_spec (formatted : layout.Formatted) (state : Allocator) (host : HostId)
    (object : GlobalPointer) (hostCount : Nat) :
    Begins layout state host object hostCount (beginRetire layout state host object hostCount).1
      (beginRetire layout state host object hostCount).2 := by
  simp only [beginRetire]
  by_cases participants : hostCount = 0 ∨ kMaxHosts < hostCount
  · rw [if_pos participants]
    refine .refuses _ fun starts => ?_
    have positive := starts.count_pos
    have bounded := starts.count_le
    omega
  · rw [if_neg participants]
    by_cases active : state.retirement.current.phase = .idle
    · rw [if_neg (not_not.mpr active)]
      cases lookup : findDescriptor layout state.memory object false with
      | error status =>
          refine .refuses _ fun starts => ?_
          have found := (findDescriptor_eq_ok formatted).mpr ⟨rfl, starts.region, starts.accepted⟩
          rw [lookup] at found
          cases found
      | ok found =>
          obtain ⟨rfl, region, accepted⟩ := (findDescriptor_eq_ok formatted).mp lookup
          by_cases owner : descriptor state.memory object.offset .ownerHost = host.val
          · by_cases exhausted : state.retirement.current.sequence = kUint64Max
            · simp only [owner, ne_eq, not_true, if_false, exhausted, if_true]
              exact .refuses _ fun starts => starts.sequence exhausted
            · have starts : Starts layout state host object hostCount :=
                ⟨by omega, by omega, active, region, accepted, owner, exhausted⟩
              simp only [owner, ne_eq, not_true, if_false, exhausted]
              by_cases locked : descriptor state.memory object.offset .accessLock = 0
              · rw [if_neg (not_not.mpr locked)]
                exact .starts starts locked
              · rw [if_pos locked]
                exact .waits starts locked
          · simp only [owner, ne_eq, not_false_eq_true, if_true]
            exact .refuses _ fun starts => owner starts.owner
    · rw [if_pos active]
      by_cases same : state.retirement.current.object = object ∧
          state.retirement.current.coordinator = host
      · rw [if_pos same]
        exact .resumes active same.1 same.2
      · rw [if_neg same]
        exact .refuses _ fun starts => active starts.idle

/-! ## Acknowledge -/

/-- The control after a phase was acknowledged by all hosts, or not yet. -/
def advance (control : RetirementControl) (mask : HostMask) (hostCount : Nat)
    (phase : RetirementPhase) : RetirementSnapshot :=
  if mask = HostMask.all hostCount then { control.current with phase := phase }
  else control.current

/-- An acknowledgement names the current transaction, phase and one of its participants. -/
structure Current (state : Allocator) (snapshot : RetirementSnapshot) (host : HostId) : Prop where
  sequence : state.retirement.current.sequence = snapshot.sequence
  phase : state.retirement.current.phase = snapshot.phase
  member : host.val < snapshot.hostCount

/-- Results and states of `AcknowledgeRetirement`. -/
inductive Acknowledges (layout : AllocatorLayout) (state : Allocator)
    (snapshot : RetirementSnapshot) (host : HostId) (cursors : HostId → Nat) :
    Option Status → Allocator → Prop
  /-- Nothing changes. -/
  | unchanged (status : Status)
      (passive : status = .ok → snapshot.phase = .idle ∨ snapshot.phase = .reclaimable) :
      Acknowledges layout state snapshot host cursors (some status) state
  /-- The call waits for the lock word of the descriptor. -/
  | waits (current : Current state snapshot host) (phase : snapshot.phase = .closing)
      (accepted : Accepted layout state.memory snapshot.object.offset true) :
      Acknowledges layout state snapshot host cursors none { state with extentLock := true }
  | closes (current : Current state snapshot host) (phase : snapshot.phase = .closing)
      (accepted : Accepted layout state.memory snapshot.object.offset true)
      (quiet : descriptor state.memory snapshot.object.offset (.activeOperations host) = 0) :
      Acknowledges layout state snapshot host cursors (some .ok)
        { state with
          memory := setDescriptor state.memory snapshot.object.offset .sealedHosts
            (descriptor state.memory snapshot.object.offset .sealedHosts ||| 1 <<< host.val)
          retirement :=
            { state.retirement with
              watermarks := Function.update state.retirement.watermarks host cursors
              closed := state.retirement.closed ||| HostMask.bit host.val
              current := advance state.retirement
                (state.retirement.closed ||| HostMask.bit host.val) snapshot.hostCount .draining } }
  | drains (current : Current state snapshot host) (phase : snapshot.phase = .draining)
      (reached : ∀ producer : HostId, producer.val < snapshot.hostCount → producer ≠ host →
        state.retirement.watermarks producer host ≤ cursors producer) :
      Acknowledges layout state snapshot host cursors (some .ok)
        { state with
          retirement :=
            { state.retirement with
              drained := state.retirement.drained ||| HostMask.bit host.val
              current := advance state.retirement
                (state.retirement.drained ||| HostMask.bit host.val) snapshot.hostCount
                .cleaning } }
  | cleans (current : Current state snapshot host) (phase : snapshot.phase = .cleaning) :
      Acknowledges layout state snapshot host cursors (some .ok)
        { state with
          retirement :=
            { state.retirement with
              cleaned := state.retirement.cleaned ||| HostMask.bit host.val
              current := advance state.retirement
                (state.retirement.cleaned ||| HostMask.bit host.val) snapshot.hostCount
                .reclaimable } }

theorem acknowledgeRetirement_spec (formatted : layout.Formatted) (state : Allocator)
    (snapshot : RetirementSnapshot) (host : HostId) (cursors : HostId → Nat) :
    Acknowledges layout state snapshot host cursors
      (acknowledgeRetirement layout state snapshot host cursors).1
      (acknowledgeRetirement layout state snapshot host cursors).2 := by
  have failed : ∀ message, Status.failedPrecondition message ≠ .ok := fun message same => by
    cases congrArg Status.code same
  have unavailable : ∀ message, Status.unavailable message ≠ .ok := fun message same => by
    cases congrArg Status.code same
  simp only [acknowledgeRetirement]
  by_cases stale : state.retirement.current.sequence ≠ snapshot.sequence ∨
      state.retirement.current.phase ≠ snapshot.phase ∨ snapshot.hostCount ≤ host.val
  · rw [if_pos stale]
    exact .unchanged _ fun same => (failed _ same).elim
  · rw [if_neg stale]
    push Not at stale
    have current : Current state snapshot host := ⟨stale.1, stale.2.1, stale.2.2⟩
    cases phase : snapshot.phase with
    | idle => exact .unchanged _ fun _ => .inl phase
    | reclaimable => exact .unchanged _ fun _ => .inr phase
    | cleaning => exact .cleans current phase
    | draining =>
        simp only
        split
        · exact .unchanged _ fun same => (unavailable _ same).elim
        · rename_i reached
          push Not at reached
          exact .drains current phase reached
    | closing =>
        simp only [acknowledgeClosing]
        cases lookup : findDescriptor layout state.memory snapshot.object true with
        | error status =>
            refine .unchanged _ fun same => ?_
            subst same
            simp only [findDescriptor] at lookup
            split at lookup
            · cases congrArg Status.code (Except.error.inj lookup)
            · split at lookup
              · cases congrArg Status.code (Except.error.inj lookup)
              · cases lookup
        | ok found =>
            obtain ⟨rfl, -, accepted⟩ := (findDescriptor_eq_ok formatted).mp lookup
            by_cases locked : descriptor state.memory snapshot.object.offset .accessLock = 0
            · by_cases quiet :
                descriptor state.memory snapshot.object.offset (.activeOperations host) = 0
              · simp only [locked, ne_eq, not_true, if_false, quiet]
                exact .closes current phase accepted quiet
              · simp only [locked, ne_eq, not_true, if_false, quiet, not_false_eq_true, if_true]
                exact .unchanged _ fun same => (unavailable _ same).elim
            · simp only [locked, ne_eq, not_false_eq_true, if_true]
              exact .waits current phase accepted

/-! ## Arithmetic of an allocation -/

/-- The requests that `Allocate` hands to the extent pools. -/
structure Admissible (bytes alignment blockBytes : Nat) : Prop where
  /-- The request is not empty. -/
  bytes_pos : 0 < bytes
  power : alignment.isPowerOfTwo
  /-- Blocks have at least one cache line. -/
  block_le : 64 ≤ blockBytes
  blockPower : blockBytes.isPowerOfTwo
  sidecar_lt : (1 + (bytes - 1) / blockBytes) * sizeofCoherenceBlockDescriptor < wordLimit
  extent_lt : sizeofAllocationDescriptor + bytes + (alignment - 1) < wordLimit

namespace Admissible

variable {bytes alignment blockBytes : Nat}

theorem alignment_pos (admissible : Admissible bytes alignment blockBytes) : 0 < alignment :=
  Nat.pos_of_isPowerOfTwo admissible.power

theorem alignment_lt (admissible : Admissible bytes alignment blockBytes) :
    alignment < wordLimit := by
  have fits := admissible.extent_lt
  have positive := admissible.bytes_pos
  simp only [sizeofAllocationDescriptor] at fits
  omega

end Admissible

/-- The block size of a request. -/
def blockBytesOf (defaultBlockBytes : UInt64) (options : AllocationOptions) : Nat :=
  if options.coherenceBlockBytes.toNat = 0 then defaultBlockBytes.toNat
  else options.coherenceBlockBytes.toNat

/-- `Allocate` refuses a request, or hands its exact sizes to the extent pools. -/
theorem allocate_cases (state : Allocator) (host : HostId) (defaultBlockBytes : UInt64)
    (options : AllocationOptions) :
    (∃ message, allocate layout state host defaultBlockBytes options =
        (.error (.invalidArgument message), state)) ∨
      Admissible options.bytes.toNat options.alignment.toNat
          (blockBytesOf defaultBlockBytes options) ∧
        allocate layout state host defaultBlockBytes options =
          reserve layout state host options.bytes.toNat options.alignment.toNat
            (blockBytesOf defaultBlockBytes options)
            (1 + (options.bytes.toNat - 1) / blockBytesOf defaultBlockBytes options)
            (sizeofAllocationDescriptor + options.bytes.toNat + (options.alignment.toNat - 1))
            ((1 + (options.bytes.toNat - 1) / blockBytesOf defaultBlockBytes options) *
              sizeofCoherenceBlockDescriptor) := by
  have bytes_lt : options.bytes.toNat < wordLimit := options.bytes.toNat_lt
  have alignment_lt : options.alignment.toNat < wordLimit := options.alignment.toNat_lt
  have block_lt : blockBytesOf defaultBlockBytes options < wordLimit := by
    rw [blockBytesOf]
    split
    · exact defaultBlockBytes.toNat_lt
    · exact options.coherenceBlockBytes.toNat_lt
  simp only [allocate]
  rw [← blockBytesOf]
  generalize options.bytes.toNat = bytes at bytes_lt ⊢
  generalize options.alignment.toNat = alignment at alignment_lt ⊢
  generalize blockBytesOf defaultBlockBytes options = blockBytes at block_lt ⊢
  split
  · exact .inl ⟨_, rfl⟩
  · rename_i nonempty
    split
    · exact .inl ⟨_, rfl⟩
    · rename_i aligned
      split
      · exact .inl ⟨_, rfl⟩
      · rename_i blocks
        split
        · exact .inl ⟨_, rfl⟩
        · rename_i count
          split
          · exact .inl ⟨_, rfl⟩
          · rename_i fits
            simp only [notPowerOfTwo, ne_eq] at aligned blocks
            push Not at aligned blocks
            obtain ⟨alignment_pos, alignment_power⟩ := aligned
            obtain ⟨block_le, block_power⟩ := blocks
            have power := (isPowerOfTwo_iff (by omega) alignment_lt).mp alignment_power
            have blockPower := (isPowerOfTwo_iff (by omega) block_lt).mp block_power
            have quotient : (bytes - 1) / blockBytes ≤ bytes - 1 := Nat.div_le_self _ _
            have exactCount : add64 1 (sub64 bytes 1 / blockBytes) =
                1 + (bytes - 1) / blockBytes := by
              rw [sub64_of_le (by omega) bytes_lt]
              exact add64_of_lt (by omega)
            rw [exactCount] at count ⊢
            have sidecar_lt :
                (1 + (bytes - 1) / blockBytes) * sizeofCoherenceBlockDescriptor < wordLimit := by
              simp only [kUint64Max, wordLimit, sizeofCoherenceBlockDescriptor] at count ⊢
              omega
            have extent_lt :
                sizeofAllocationDescriptor + bytes + (alignment - 1) < wordLimit := by
              have half := isPowerOfTwo_le power alignment_lt
              rw [sub64_of_le (by omega) alignment_lt] at fits
              simp only [sub64, kUint64Max, wordLimit, sizeofAllocationDescriptor] at fits half ⊢
              omega
            have exactExtent :
                sub64 (add64 (add64 sizeofAllocationDescriptor bytes) alignment) 1 =
                  sizeofAllocationDescriptor + bytes + (alignment - 1) := by
              simp only [sub64, add64, wordLimit, sizeofAllocationDescriptor] at extent_lt ⊢
              omega
            rw [exactExtent, mul64_of_lt sidecar_lt]
            exact .inr ⟨⟨by omega, power, block_le, blockPower, sidecar_lt, extent_lt⟩, rfl⟩

end Cxloom.LoomMem.Allocator
