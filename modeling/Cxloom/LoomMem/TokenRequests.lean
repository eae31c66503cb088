import Cxloom.LoomMem.TokenPlaces

/-!
# Requests are answered once

The second invariant of the token services.  It ties each waiter to the places of its request and
says which packets can be under way.  It holds in the runs in which a cancellation that reaches
the owner of the token never finds its request still travelling.
-/

namespace Cxloom.LoomMem

variable {cluster : Cluster}

/-- The token is idle, leased or under way: no operation is working on it. -/
def TokenPhase.steady : TokenPhase cluster → Bool
  | .idle | .leased _ _ | .flying _ _ => true
  | .busy | .lost => false

/-- What the callers of a run remember, and whether they cancel. -/
structure RequestLedger (cluster : Cluster) where
  issued : cluster.Host → Nat → Option BlockKey
  /-- Lease of every request whose wait succeeded. -/
  returned : cluster.Host → Nat → Option TokenLease
  /-- Whether requests may be cancelled. -/
  cancels : Bool

/-- How many places the request of a waiter has.  A returned request has no waiter, and without
cancellation every other request has one. -/
def WaiterFits (cancels : Bool) (lease : Option TokenLease) : Option Waiter → Nat → Prop
  | none, count => count = 0 ∧ (cancels = true ∨ lease.isSome)
  | some waiter, count =>
      lease = none ∧
        match waiter.state with
        | .active => waiter.abandoned = false ∧ count = 1
        | .cancelling => cancels = true ∧ waiter.abandoned = true ∧ count ≤ 1
        | .granted => count = 0
        | .rejected | .cancelled => cancels = true ∧ count = 0

/-- The request will never be granted to its caller. -/
def Settled : Option Waiter → Prop
  | none => True
  | some waiter => waiter.state ≠ .active ∧ waiter.state ≠ .granted

theorem Settled.grantedLease {waiter : Option Waiter} (settled : Settled waiter) :
    TokenState.grantedLease waiter = none := by
  cases waiter with
  | none => rfl
  | some waiter => simp [TokenState.grantedLease, settled.2]

section WaiterFits

variable {cancels : Bool} {lease : Option TokenLease} {waiter : Option Waiter} {count : Nat}

theorem WaiterFits.le_one (fits : WaiterFits cancels lease waiter count) : count ≤ 1 := by
  cases waiter with
  | none => simp_all [WaiterFits]
  | some waiter =>
      cases state : waiter.state <;> simp_all [WaiterFits]

/-- A request that has a place has a waiter, which is active or being cancelled. -/
theorem WaiterFits.of_pos (fits : WaiterFits cancels lease waiter count) (positive : 0 < count) :
    count = 1 ∧ lease = none ∧ ∃ found, waiter = some found ∧
      (found.state = .active ∧ found.abandoned = false ∨
        found.state = .cancelling ∧ found.abandoned = true ∧ cancels = true) := by
  cases waiter with
  | none =>
      have empty : count = 0 := fits.1
      omega
  | some waiter =>
      obtain ⟨open_, fits⟩ := fits
      cases state : waiter.state with
      | active =>
          obtain ⟨kept, one⟩ : waiter.abandoned = false ∧ count = 1 := by
            simpa [state] using fits
          exact ⟨one, open_, waiter, rfl, .inl ⟨state, kept⟩⟩
      | cancelling =>
          obtain ⟨cancels, abandoned, one⟩ :
              cancels = true ∧ waiter.abandoned = true ∧ count ≤ 1 := by
            simpa [state] using fits
          exact ⟨by omega, open_, waiter, rfl, .inr ⟨state, abandoned, cancels⟩⟩
      | granted =>
          have empty : count = 0 := by simpa [state] using fits
          omega
      | rejected | cancelled =>
          have empty : count = 0 := (by simpa [state] using fits : cancels = true ∧ count = 0).2
          omega

/-- A settled waiter is there only where requests are cancelled, and it still fits when the last
place of its request is gone. -/
theorem WaiterFits.of_settled {found : Waiter} (fits : WaiterFits cancels lease (some found) count)
    (settled : Settled (some found)) :
    cancels = true ∧ lease = none ∧ WaiterFits cancels lease (some found) 0 := by
  obtain ⟨notActive, notGranted⟩ := settled
  cases state : found.state <;> simp_all [WaiterFits]

end WaiterFits

namespace TokenState

/-- A request under way or pending was issued for its block and saw a past version. -/
structure ProperRequest (state : TokenState cluster)
    (issued : cluster.Host → Nat → Option BlockKey) (request : TokenRequest cluster) : Prop where
  issued : issued request.requester request.requestId = some request.key
  observed : request.observedVersion ≤ (state.block request.key).version

theorem ProperRequest.mono {state after : TokenState cluster}
    {issued : cluster.Host → Nat → Option BlockKey} {request : TokenRequest cluster}
    (proper : state.ProperRequest issued request)
    (version : ∀ key, (state.block key).version ≤ (after.block key).version) :
    after.ProperRequest issued request :=
  ⟨proper.issued, proper.observed.trans (version request.key)⟩

/-- What a packet between two hosts can be, for given numbers of places. -/
def ProperPacket (state : TokenState cluster) (ledger : RequestLedger cluster)
    (count : BlockKey → cluster.Host → Nat → Nat) (destination : cluster.Host) :
    Packet cluster → Prop
  | .request message => state.ProperRequest ledger.issued message
  | .grant message =>
      message.newOwner = destination ∧
        ledger.issued destination message.requestId = some message.key
  | .reject _ => False
  | .cancel message =>
      ledger.cancels = true ∧
        ledger.issued message.requester message.requestId = some message.key ∧
        Settled (state.waiter message.requester message.requestId)
  | .cancelAck message =>
      ledger.cancels = true ∧ message.requester = destination ∧
        ledger.issued destination message.requestId = some message.key ∧
        Settled (state.waiter destination message.requestId) ∧
        (message.reason ≠ .tooLate → count message.key destination message.requestId = 0)
  | .application => True

/-- Every waiter fits the places of its request, and every packet is proper.  `count` is the
number of places; inside an operation it includes a packet that was popped and not yet handled. -/
structure PlaceInv (state : TokenState cluster) (ledger : RequestLedger cluster)
    (count : BlockKey → cluster.Host → Nat → Nat) : Prop where
  drawn : ∀ host requestId key, ledger.issued host requestId = some key →
    state.Live key ∧ 0 < requestId ∧ requestId < state.nextRequestId host
  unissued : ∀ host requestId, ledger.issued host requestId = none →
    state.waiter host requestId = none ∧ ∀ key, count key host requestId = 0
  fits : ∀ host requestId key, ledger.issued host requestId = some key →
    WaiterFits ledger.cancels (ledger.returned host requestId) (state.waiter host requestId)
      (count key host requestId)
  packets : ∀ source destination packet, packet ∈ state.fifo source destination →
    state.ProperPacket ledger count destination packet
  pending : ∀ host key request, request ∈ (state.localObject host key).pending →
    state.ProperRequest ledger.issued request
  /-- Identifiers start at one. -/
  positive : ∀ host, 0 < state.nextRequestId host

/-- How the state may change without issuing a request. -/
structure Progresses (before after : TokenState cluster)
    (ledger : RequestLedger cluster)
    (count count' : BlockKey → cluster.Host → Nat → Nat) : Prop where
  descriptor : after.descriptor = before.descriptor
  /-- Identifiers stay. -/
  nextRequestId : ∀ host, after.nextRequestId host = before.nextRequestId host
  version : ∀ key, (before.block key).version ≤ (after.block key).version
  /-- Places only vanish. -/
  counts : ∀ key host requestId, count' key host requestId ≤ count key host requestId
  /-- A waiter that changed belongs to an issued request and fits again. -/
  waiters : ∀ host requestId, after.waiter host requestId = before.waiter host requestId ∧
      (∀ key, ledger.issued host requestId = some key →
        count' key host requestId = count key host requestId) ∨
    (ledger.issued host requestId).isSome ∧
      (Settled (before.waiter host requestId) → Settled (after.waiter host requestId)) ∧
      ∀ key, ledger.issued host requestId = some key →
        WaiterFits ledger.cancels (ledger.returned host requestId) (after.waiter host requestId)
          (count' key host requestId)
  packets : ∀ source destination packet, packet ∈ after.fifo source destination →
    packet ∈ before.fifo source destination ∨ after.ProperPacket ledger count' destination packet
  pending : ∀ host key request, request ∈ (after.localObject host key).pending →
    request ∈ (before.localObject host key).pending ∨ after.ProperRequest ledger.issued request

namespace PlaceInv

variable {state after : TokenState cluster} {ledger : RequestLedger cluster}
  {count count' : BlockKey → cluster.Host → Nat → Nat}

theorem progress (inv : state.PlaceInv ledger count)
    (step : state.Progresses after ledger count count') : after.PlaceInv ledger count' := by
  have proper : ∀ request, state.ProperRequest ledger.issued request →
      after.ProperRequest ledger.issued request := fun request old => old.mono step.version
  have settled : ∀ host requestId, Settled (state.waiter host requestId) →
      Settled (after.waiter host requestId) := by
    intro host requestId old
    rcases step.waiters host requestId with ⟨same, -⟩ | ⟨-, kept, -⟩
    · rwa [same]
    · exact kept old
  refine ⟨?_, ?_, ?_, ?_, ?_, ?_⟩
  · intro host requestId key found
    obtain ⟨live, positive, below⟩ := inv.drawn host requestId key found
    exact ⟨live.congr step.descriptor, positive, by rwa [step.nextRequestId]⟩
  · intro host requestId missing
    obtain ⟨waiter, zero⟩ := inv.unissued host requestId missing
    refine ⟨?_, fun key => Nat.le_zero.mp ((step.counts key host requestId).trans (zero key).le)⟩
    rcases step.waiters host requestId with ⟨same, -⟩ | ⟨found, -⟩
    · rw [same, waiter]
    · simp [missing] at found
  · intro host requestId key found
    rcases step.waiters host requestId with ⟨same, counts⟩ | ⟨-, -, fits⟩
    · rw [same, counts key found]
      exact inv.fits host requestId key found
    · exact fits key found
  · intro source destination packet member
    rcases step.packets source destination packet member with old | new
    · have before := inv.packets source destination packet old
      cases packet with
      | request message => exact proper message before
      | grant message | reject message => exact before
      | cancel message => exact ⟨before.1, before.2.1, settled _ _ before.2.2⟩
      | cancelAck message =>
          obtain ⟨cancels, addressed, found, old, zero⟩ := before
          exact ⟨cancels, addressed, found, settled _ _ old, fun reason =>
            Nat.le_zero.mp ((step.counts _ _ _).trans (zero reason).le)⟩
      | application => trivial
    · exact new
  · intro host key request member
    rcases step.pending host key request member with old | new
    · exact proper request (inv.pending host key request old)
    · exact new
  · intro host
    rw [step.nextRequestId]
    exact inv.positive host

/-- Waiters, packets and pending queues decide the invariant. -/
theorem congr (inv : state.PlaceInv ledger count) (descriptor : after.descriptor = state.descriptor)
    (nextRequestId : ∀ host, after.nextRequestId host = state.nextRequestId host)
    (version : ∀ key, (state.block key).version ≤ (after.block key).version)
    (waiters : ∀ host requestId, after.waiter host requestId = state.waiter host requestId)
    (fifos : ∀ source destination packet, packet ∈ after.fifo source destination →
      packet ∈ state.fifo source destination ∨ after.ProperPacket ledger count destination packet)
    (pending : ∀ host key request, request ∈ (after.localObject host key).pending →
      request ∈ (state.localObject host key).pending ∨ after.ProperRequest ledger.issued request) :
    after.PlaceInv ledger count :=
  inv.progress
    { descriptor := descriptor
      nextRequestId := nextRequestId
      version := version
      counts := fun _ _ _ => Nat.le_refl _
      waiters := fun host requestId => .inl ⟨waiters host requestId, fun _ _ => rfl⟩
      packets := fifos
      pending := pending }

theorem setBlock (inv : state.PlaceInv ledger count) {key : BlockKey}
    {block : CoherenceBlockDescriptor cluster}
    (version : (state.block key).version ≤ block.version) :
    (state.setBlock key block).PlaceInv ledger count := by
  refine inv.congr rfl (by simp) ?_ (by simp) (fun _ _ _ member => .inl member)
    (fun _ _ _ member => .inl member)
  intro other
  by_cases same : other = key <;> simp [same, version]

theorem activateIf (inv : state.PlaceInv ledger count) (key : BlockKey) (activate : Bool) :
    (state.activateIf key activate).2.PlaceInv ledger count := by
  obtain ⟨writebackEpoch, changed⟩ := state.activateIf_eq_setBlock key activate
  rw [changed]
  exact inv.setBlock (Nat.le_refl _)

theorem publishRelease (inv : state.PlaceInv ledger count) (host : cluster.Host) (key : BlockKey)
    (modified : Bool) : (state.publishRelease host key modified).PlaceInv ledger count := by
  obtain ⟨block, changed, -, -, version, -⟩ := state.publishRelease_eq_setBlock host key modified
  rw [changed]
  exact inv.setBlock version

theorem setLocal (inv : state.PlaceInv ledger count) (host : cluster.Host) (key : BlockKey)
    (object : LocalObject cluster)
    (pending : ∀ request ∈ object.pending, request ∈ (state.localObject host key).pending ∨
      state.ProperRequest ledger.issued request) :
    (state.setLocal host key object).PlaceInv ledger count := by
  refine inv.congr rfl (by simp) (fun _ => Nat.le_refl _) (by simp)
    (fun source destination packet member => .inl (by simpa using member)) ?_
  intro other otherKey request member
  by_cases same : other = host ∧ otherKey = key
  · obtain ⟨rfl, rfl⟩ := same
    exact (pending request (by simpa using member)).imp_right fun proper =>
      proper.mono fun _ => Nat.le_refl _
  · exact .inl (by simpa [same] using member)

theorem enqueueOutbound (inv : state.PlaceInv ledger count) (host : cluster.Host)
    {destination : cluster.Host} (packet : Packet cluster)
    (proper : state.ProperPacket ledger count destination packet) :
    (state.enqueueOutbound host destination packet).2.PlaceInv ledger count := by
  have kept : (state.enqueueOutbound host destination packet).2.ProperPacket ledger count
      destination packet := by
    cases packet with
    | request message => exact ProperRequest.mono proper (by simp)
    | reject => exact proper
    | application => trivial
    | grant | cancel | cancelAck => simpa [ProperPacket] using proper
  refine inv.congr (by simp) (by simp) (by simp) (by simp) ?_
    (fun other key request member => .inl (by simpa using member))
  intro source target other member
  rw [enqueueOutbound_fifo] at member
  split at member
  · rename_i route
    rcases List.mem_append.mp member with old | new
    · exact .inl old
    · rw [List.mem_singleton.mp new, route.2]
      exact .inr kept
  · exact .inl member

theorem handOff (inv : state.PlaceInv ledger count) {host : cluster.Host} {key : BlockKey}
    {request : TokenRequest cluster} (empty : state.SelfQueuesEmpty)
    (remote : request.requester ≠ host) (proper : state.ProperRequest ledger.issued request)
    (queue : ∀ request ∈ (state.localObject host key).pending,
      state.ProperRequest ledger.issued request) :
    (state.handOff host key request).2.PlaceInv ledger count := by
  obtain ⟨-, -, objects, fifos⟩ := handOff_spec key empty remote
  have version : ∀ other, (state.block other).version ≤
      ((state.handOff host key request).2.block other).version := by
    intro other
    rw [handOff_block]
    split
    · rename_i same
      rw [same]
    · exact Nat.le_refl _
  refine inv.congr (by simp) (by simp) version (by simp) ?_ ?_
  · intro source target packet member
    rw [fifos] at member
    split at member
    · rename_i route
      rcases List.mem_append.mp member with old | new
      · exact .inl old
      · right
        rcases List.mem_cons.mp new with grant | forwarded
        · rw [grant, route.2]
          exact ⟨rfl, proper.issued⟩
        · obtain ⟨entry, waiting, rfl⟩ := List.mem_map.mp forwarded
          exact (queue entry waiting).mono version
    · exact .inl member
  · intro other otherKey entry member
    rw [objects] at member
    split at member
    · simp [LocalObject.fresh] at member
    · exact .inl member

theorem pop (inv : state.PlaceInv ledger count) {source destination : cluster.Host}
    {packet : Packet cluster} (popped : state.pop source destination = some (packet, after)) :
    after.PlaceInv ledger count := by
  obtain ⟨descriptor, block, -⟩ := pop_eq_some popped
  refine inv.congr descriptor (by simp [pop_nextRequestId popped]) (by simp [block])
    (by simp [pop_waiter popped]) ?_ (fun _ _ _ member => .inl (by
      simpa [pop_localObject popped] using member))
  intro from_ to_ other member
  by_cases same : from_ = source ∧ to_ = destination
  · obtain ⟨rfl, rfl⟩ := same
    rw [pop_fifo popped]
    exact .inl (List.mem_cons_of_mem _ member)
  · rw [pop_fifo_of_ne popped same] at member
    exact .inl member

theorem setWaiter (inv : state.PlaceInv ledger count) {host : cluster.Host} {requestId : Nat}
    {key : BlockKey} (found : ledger.issued host requestId = some key)
    (replacement : Option Waiter)
    (settled : Settled (state.waiter host requestId) → Settled replacement)
    (counts : ∀ key other otherId, count' key other otherId ≤ count key other otherId)
    (others : ∀ key other otherId, ¬(other = host ∧ otherId = requestId) →
      count' key other otherId = count key other otherId)
    (fits : WaiterFits ledger.cancels (ledger.returned host requestId) replacement
      (count' key host requestId)) :
    (state.setWaiter host requestId replacement).PlaceInv ledger count' := by
  refine inv.progress
    { descriptor := rfl
      nextRequestId := by simp
      version := fun _ => Nat.le_refl _
      counts := counts
      waiters := ?_
      packets := fun _ _ _ member => .inl (by simpa using member)
      pending := fun _ _ _ member => .inl (by simpa using member) }
  intro other otherId
  by_cases same : other = host ∧ otherId = requestId
  · obtain ⟨rfl, rfl⟩ := same
    refine .inr ⟨by simp [found], by simpa using settled, fun otherKey again => ?_⟩
    obtain rfl : key = otherKey := Option.some.inj (found.symm.trans again)
    simpa using fits
  · exact .inl ⟨by simp [same], fun key _ => others key other otherId same⟩

theorem recounted (inv : state.PlaceInv ledger count)
    (same : ∀ key host requestId, count' key host requestId = count key host requestId) :
    state.PlaceInv ledger count' := by
  obtain rfl : count' = count := by
    funext key host requestId
    exact same key host requestId
  exact inv

/-- Places that vanished are counted again. -/
theorem recount (inv : state.PlaceInv ledger count)
    (counts : ∀ key host requestId, count' key host requestId ≤ count key host requestId)
    (fits : ∀ host requestId key, ledger.issued host requestId = some key →
      WaiterFits ledger.cancels (ledger.returned host requestId) (state.waiter host requestId)
        (count' key host requestId)) :
    state.PlaceInv ledger count' := by
  refine inv.progress
    { descriptor := rfl
      nextRequestId := fun _ => rfl
      version := fun _ => Nat.le_refl _
      counts := counts
      waiters := ?_
      packets := fun _ _ _ member => .inl member
      pending := fun _ _ _ member => .inl member }
  intro host requestId
  cases found : ledger.issued host requestId with
  | none => exact .inl ⟨rfl, by simp⟩
  | some key =>
      refine .inr ⟨by simp, id, fun otherKey again => ?_⟩
      exact fits host requestId otherKey (found.trans again)

theorem issued_of_place {ledger : RequestLedger cluster} {state : TokenState cluster}
    (inv : state.PlaceInv ledger state.places) {key : BlockKey} {host : cluster.Host}
    {requestId : Nat} (placed : 0 < state.places key host requestId) :
    ledger.issued host requestId = some key := by
  rcases Nat.add_pos_iff_pos_or_pos.mp placed with travels | waits
  · obtain ⟨route, -, counted⟩ := Finset.exists_ne_zero_of_sum_ne_zero travels.ne'
    obtain ⟨packet, member, carries⟩ := List.countP_pos_iff.mp (Nat.pos_of_ne_zero counted)
    have proper := inv.packets route.1 route.2 packet member
    cases packet with
    | request message =>
        obtain ⟨rfl, rfl, rfl⟩ : message.key = key ∧ message.requester = host ∧
            message.requestId = requestId := by
          simpa [Packet.isFor, TokenRequest.isFor] using carries
        exact proper.issued
    | grant message =>
        obtain ⟨rfl, rfl, rfl⟩ : message.key = key ∧ message.newOwner = host ∧
            message.requestId = requestId := by
          simpa [Packet.isFor] using carries
        exact proper.1 ▸ proper.2
    | reject | cancel | cancelAck | application => simp [Packet.isFor] at carries
  · obtain ⟨other, -, counted⟩ := Finset.exists_ne_zero_of_sum_ne_zero waits.ne'
    obtain ⟨request, member, mine⟩ := List.countP_pos_iff.mp (Nat.pos_of_ne_zero counted)
    obtain ⟨rfl, rfl, rfl⟩ : request.key = key ∧ request.requester = host ∧
        request.requestId = requestId := by
      simpa [TokenRequest.isFor] using mine
    exact (inv.pending other request.key request member).issued

end PlaceInv

/-! ## Steady tokens -/

/-- The token of an existing block is steady, a block that cannot be found has no user, and
requests wait only at the owner of a token that will come back. -/
def Steady (state : TokenState cluster) (leased : cluster.Host → Nat → Option TokenLease)
    (key : BlockKey) : Prop :=
  ∃ phase, state.TokenAt leased key phase ∧
    (phase.steady = true ∧ state.Live key ∨
      (phase = .idle ∨ phase = .lost) ∧ ¬state.Live key) ∧
    ∀ host, (state.localObject host key).pending ≠ [] →
      host = (state.block key).tokenOwner ∧ phase ≠ .idle

namespace Steady

variable {state after : TokenState cluster}
  {leased leased' : cluster.Host → Nat → Option TokenLease} {key other : BlockKey}
  {host : cluster.Host}

/-- The frame of a block: its sidecar, its local objects, its leases and its grants. -/
theorem congr (steady : state.Steady leased key) (descriptor : after.descriptor = state.descriptor)
    (block : after.block key = state.block key)
    (objects : ∀ host, after.localObject host key = state.localObject host key)
    (leases : ∀ holder, after.leaseFor leased' key holder = state.leaseFor leased key holder)
    (grants : ∀ source destination,
      after.grantsFor key source destination = state.grantsFor key source destination) :
    after.Steady leased' key := by
  obtain ⟨phase, at_, kind, pending⟩ := steady
  have live : after.Live key ↔ state.Live key :=
    ⟨fun live => live.congr descriptor.symm, fun live => live.congr descriptor⟩
  refine ⟨phase, at_.congr block (by simp [objects]) (by simp [objects]) leases grants, ?_, ?_⟩
  · rwa [live]
  · simpa [objects, block] using pending

theorem setLocal_of_ne (steady : state.Steady leased other) (apart : other ≠ key)
    (object : LocalObject cluster) : (state.setLocal host key object).Steady leased other :=
  steady.congr rfl rfl (by simp [apart]) (by simp) (by simp)

theorem setBlock_of_ne (steady : state.Steady leased other) (apart : other ≠ key)
    (block : CoherenceBlockDescriptor cluster) : (state.setBlock key block).Steady leased other :=
  steady.congr rfl (by simp [apart]) (by simp) (by simp) (by simp)

theorem setWaiter (steady : state.Steady leased key) {requestId : Nat}
    (replacement : Option Waiter)
    (same : (grantedLease replacement).filter (fun lease => lease.key = key) =
      state.leaseFor leased key (.waiter host requestId)) :
    (state.setWaiter host requestId replacement).Steady leased key := by
  refine steady.congr rfl rfl (by simp) ?_ (by simp)
  intro holder
  rw [setWaiter_leaseFor]
  split
  · rename_i mine
    rw [mine, same]
  · rfl

theorem updateEntry (steady : state.Steady leased key) {requestId : Nat}
    {entry : Option TokenLease}
    (same : entry.filter (fun lease => lease.key = key) =
      state.leaseFor leased key (.caller host requestId)) :
    state.Steady (updateEntry leased host requestId entry) key := by
  refine steady.congr rfl rfl (fun _ => rfl) ?_ (fun _ _ => rfl)
  intro holder
  cases holder with
  | waiter => rfl
  | caller otherHost otherId =>
      by_cases mine : otherHost = host ∧ otherId = requestId
      · obtain ⟨rfl, rfl⟩ := mine
        simpa [leaseFor] using same
      · simp [leaseFor, mine]

theorem enqueueOutbound (steady : state.Steady leased key) {destination : cluster.Host}
    {packet : Packet cluster} (plain : packet.grantFor key = none) :
    (state.enqueueOutbound host destination packet).2.Steady leased key :=
  steady.congr (by simp) (by simp) (by simp) (by simp) (by simp [plain])

theorem progressOutbound (steady : state.Steady leased key) :
    (state.progressOutbound host).2.Steady leased key :=
  steady.congr (by simp) (by simp) (by simp) (by simp) (by simp)

theorem issue (steady : state.Steady leased key) (object : GlobalPointer)
    (unused : state.waiter host (state.nextRequestId host) = none) :
    (state.issue host object).Steady leased key := by
  refine steady.congr rfl rfl (by simp) ?_ (by simp [grantsFor])
  intro holder
  cases holder with
  | caller => rfl
  | waiter otherHost otherId =>
      by_cases mine : otherHost = host ∧ otherId = state.nextRequestId host
      · obtain ⟨rfl, rfl⟩ := mine
        simp [leaseFor, unused, grantedLease, freshWaiter]
      · simp [leaseFor, mine]

theorem activateIf_of_ne (steady : state.Steady leased other) (apart : other ≠ key)
    (activate : Bool) : (state.activateIf key activate).2.Steady leased other := by
  obtain ⟨writebackEpoch, changed⟩ := state.activateIf_eq_setBlock key activate
  rw [changed]
  exact steady.setBlock_of_ne apart _

theorem publishRelease_of_ne (steady : state.Steady leased other) (apart : other ≠ key)
    (modified : Bool) : (state.publishRelease host key modified).Steady leased other :=
  steady.setBlock_of_ne apart _

theorem handOff_of_ne (steady : state.Steady leased other) (apart : other ≠ key)
    (empty : state.SelfQueuesEmpty) {request : TokenRequest cluster}
    (requestKey : request.key = key)
    (remote : request.requester ≠ host) :
    (state.handOff host key request).2.Steady leased other := by
  obtain ⟨-, -, objects, -⟩ := handOff_spec key empty remote
  exact steady.congr (by simp) (by simp [apart]) (by simp [objects, apart])
    (leaseFor_congr leased other (by simp))
    (handOff_grantsFor_of_ne apart empty requestKey remote)

theorem pop (steady : state.Steady leased key) {source destination : cluster.Host}
    {packet : Packet cluster} (popped : state.pop source destination = some (packet, after))
    (plain : packet.grantFor key = none) : after.Steady leased key := by
  obtain ⟨phase, at_, kind, pending⟩ := steady
  obtain ⟨descriptor, block, -⟩ := pop_eq_some popped
  have live : after.Live key ↔ state.Live key :=
    ⟨fun live => live.congr descriptor.symm, fun live => live.congr descriptor⟩
  refine ⟨phase, at_.pop_other popped plain, ?_, ?_⟩
  · rwa [live]
  · simpa [pop_localObject popped, block] using pending

end Steady

end TokenState
end Cxloom.LoomMem
