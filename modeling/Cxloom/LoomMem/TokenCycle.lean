import Cxloom.LoomMem.TokenRun

/-!
# The life cycle of one write token

Abstractly a block has one token and the token is in one of five phases: idle at its owner, busy
(in use but not yet leased), leased to one holder, flying inside a grant packet, or lost.
`TokenAt` says that the services of all hosts agree with a phase.  The lemmas of this file are the
moves between phases; the operations of the service are sequences of such moves.
-/

namespace Cxloom.LoomMem

/-- Who holds a lease: a granted waiter that was not collected, or the caller of its wait. -/
inductive LeaseHolder (cluster : Cluster)
  | waiter (host : cluster.Host) (requestId : Nat)
  | caller (host : cluster.Host) (requestId : Nat)
deriving DecidableEq

namespace LeaseHolder

def host {cluster : Cluster} : LeaseHolder cluster → cluster.Host
  | waiter host _ => host
  | caller host _ => host

end LeaseHolder

/-- Phases of the token of one block. -/
inductive TokenPhase (cluster : Cluster)
  | idle
  | busy
  | leased (holder : LeaseHolder cluster) (lease : TokenLease)
  | flying (source : cluster.Host) (grant : TokenGrant cluster)
  | lost

namespace TokenPhase

variable {cluster : Cluster}

/-- The token has arrived at the owner named by the sidecar. -/
def landed : TokenPhase cluster → Bool
  | idle | busy | leased _ _ => true
  | flying _ _ | lost => false

def inUse : TokenPhase cluster → Bool
  | busy | leased _ _ => true
  | idle | flying _ _ | lost => false

def leaseOf : TokenPhase cluster → LeaseHolder cluster → Option TokenLease
  | leased holder lease, other => if other = holder then some lease else none
  | idle, _ | busy, _ | flying _ _, _ | lost, _ => none

/-- Grants between two hosts in a phase. -/
def grantsOn (owner : cluster.Host) :
    TokenPhase cluster → cluster.Host → cluster.Host → List (TokenGrant cluster)
  | flying source grant, from_, to_ => if from_ = source ∧ to_ = owner then [grant] else []
  | idle, _, _ | busy, _, _ | leased _ _, _, _ | lost, _, _ => []

def without (holder : LeaseHolder cluster) : TokenPhase cluster → TokenPhase cluster
  | leased other lease => if other = holder then busy else leased other lease
  | idle => idle
  | busy => busy
  | flying source grant => flying source grant
  | lost => lost

@[simp] theorem without_landed (holder : LeaseHolder cluster) (phase : TokenPhase cluster) :
    (phase.without holder).landed = phase.landed := by
  cases phase <;> simp only [without]
  split <;> rfl

@[simp] theorem without_inUse (holder : LeaseHolder cluster) (phase : TokenPhase cluster) :
    (phase.without holder).inUse = phase.inUse := by
  cases phase <;> simp only [without]
  split <;> rfl

@[simp] theorem without_grantsOn (holder : LeaseHolder cluster) (phase : TokenPhase cluster)
    (owner : cluster.Host) : (phase.without holder).grantsOn owner = phase.grantsOn owner := by
  cases phase <;> simp only [without]
  split <;> rfl

@[simp] theorem without_leaseOf (holder other : LeaseHolder cluster)
    (phase : TokenPhase cluster) :
    (phase.without holder).leaseOf other =
      if other = holder then none else phase.leaseOf other := by
  cases phase with
  | leased owner lease =>
      simp only [without]
      by_cases mine : owner = holder
      · subst mine
        by_cases same : other = owner <;> simp [leaseOf, same]
      · by_cases same : other = holder
        · subst same
          simp [leaseOf, mine, Ne.symm mine]
        · simp [mine, same]
  | idle | busy | flying | lost => simp [without, leaseOf]

/-- A lease or a grant carries the current metadata of its block. -/
def Current (key : BlockKey) (block : CoherenceBlockDescriptor cluster) :
    TokenPhase cluster → Prop
  | leased holder lease =>
      lease.key = key ∧ holder.host = block.tokenOwner ∧ lease.tokenEpoch = block.tokenEpoch
  | flying source grant =>
      grant.key = key ∧ source ≠ block.tokenOwner ∧ grant.newOwner = block.tokenOwner ∧
        grant.tokenEpoch = block.tokenEpoch ∧ grant.version = block.version
  | idle | busy | lost => True

end TokenPhase

theorem TokenPhase.Current.without {cluster : Cluster} {key : BlockKey}
    {block : CoherenceBlockDescriptor cluster} {phase : TokenPhase cluster}
    (current : phase.Current key block) (holder : LeaseHolder cluster) :
    (phase.without holder).Current key block := by
  cases phase with
  | leased other lease =>
      simp only [TokenPhase.without]
      split
      · trivial
      · exact current
  | idle | busy | flying | lost => exact current

def Packet.grantFor {cluster : Cluster} (key : BlockKey) :
    Packet cluster → Option (TokenGrant cluster)
  | .grant message => if message.key = key then some message else none
  | .request _ | .reject _ | .cancel _ | .cancelAck _ | .application => none

namespace TokenState

variable {cluster : Cluster}

def grantedLease (waiter : Option Waiter) : Option TokenLease :=
  waiter.bind fun waiter => if waiter.state = .granted then some waiter.lease else none

def leaseFor (state : TokenState cluster) (leased : cluster.Host → Nat → Option TokenLease)
    (key : BlockKey) : LeaseHolder cluster → Option TokenLease
  | .waiter host requestId =>
      (grantedLease (state.waiter host requestId)).filter fun lease => lease.key = key
  | .caller host requestId => (leased host requestId).filter fun lease => lease.key = key

/-- Grants for a block from one host to another, in flight or deferred. -/
def grantsFor (state : TokenState cluster) (key : BlockKey) (source destination : cluster.Host) :
    List (TokenGrant cluster) :=
  (state.fifo source destination).filterMap (Packet.grantFor key)

theorem mem_grantsFor {state : TokenState cluster} {key : BlockKey}
    {source destination : cluster.Host} {grant : TokenGrant cluster} :
    grant ∈ state.grantsFor key source destination ↔
      Packet.grant grant ∈ state.fifo source destination ∧ grant.key = key := by
  rw [grantsFor, List.mem_filterMap]
  constructor
  · rintro ⟨packet, member, carried⟩
    cases packet with
    | grant message =>
        simp only [Packet.grantFor] at carried
        split at carried
        · rename_i mine
          obtain rfl := Option.some.inj carried
          exact ⟨member, mine⟩
        · exact (Option.some_ne_none _ carried.symm).elim
    | request | reject | cancel | cancelAck | application => simp [Packet.grantFor] at carried
  · rintro ⟨member, mine⟩
    exact ⟨_, member, by simp [Packet.grantFor, mine]⟩

section Reads

variable (state : TokenState cluster) (leased : cluster.Host → Nat → Option TokenLease)
  (key other : BlockKey) (host : cluster.Host) (object : LocalObject cluster)
  (block : CoherenceBlockDescriptor cluster) (destination : cluster.Host)
  (packet : Packet cluster) (requestId : Nat) (replacement : Option Waiter)

theorem leaseFor_congr {before after : TokenState cluster}
    (waiters : ∀ host requestId, after.waiter host requestId = before.waiter host requestId)
    (holder : LeaseHolder cluster) :
    after.leaseFor leased key holder = before.leaseFor leased key holder := by
  cases holder <;> simp only [leaseFor, waiters]

@[simp] theorem setLocal_leaseFor (holder : LeaseHolder cluster) :
    (state.setLocal host other object).leaseFor leased key holder =
      state.leaseFor leased key holder :=
  leaseFor_congr leased key (by simp) holder

@[simp] theorem setBlock_leaseFor (holder : LeaseHolder cluster) :
    (state.setBlock other block).leaseFor leased key holder =
      state.leaseFor leased key holder :=
  leaseFor_congr leased key (by simp) holder

@[simp] theorem progressOutbound_leaseFor (holder : LeaseHolder cluster) :
    (state.progressOutbound host).2.leaseFor leased key holder =
      state.leaseFor leased key holder :=
  leaseFor_congr leased key (by simp) holder

@[simp] theorem enqueueOutbound_leaseFor (holder : LeaseHolder cluster) :
    (state.enqueueOutbound host destination packet).2.leaseFor leased key holder =
      state.leaseFor leased key holder :=
  leaseFor_congr leased key (by simp) holder

@[simp] theorem setWaiter_leaseFor (holder : LeaseHolder cluster) :
    (state.setWaiter host requestId replacement).leaseFor leased key holder =
      if holder = .waiter host requestId then
        (grantedLease replacement).filter fun lease => lease.key = key
      else state.leaseFor leased key holder := by
  cases holder with
  | caller => simp [leaseFor]
  | waiter otherHost otherId =>
      simp only [leaseFor, setWaiter_waiter, LeaseHolder.waiter.injEq]
      split <;> rfl

@[simp] theorem setWaiter_grantsFor :
    (state.setWaiter host requestId replacement).grantsFor key = state.grantsFor key := by
  funext source destination
  simp [grantsFor]

@[simp] theorem setLocal_grantsFor :
    (state.setLocal host other object).grantsFor key = state.grantsFor key := by
  funext source destination
  simp [grantsFor]

@[simp] theorem setBlock_grantsFor :
    (state.setBlock other block).grantsFor key = state.grantsFor key := rfl

@[simp] theorem progressOutbound_grantsFor :
    (state.progressOutbound host).2.grantsFor key = state.grantsFor key := by
  funext source destination
  simp [grantsFor]

@[simp] theorem enqueueOutbound_grantsFor (source target : cluster.Host) :
    (state.enqueueOutbound host destination packet).2.grantsFor key source target =
      if source = host ∧ target = destination then
        state.grantsFor key source target ++ (packet.grantFor key).toList
      else state.grantsFor key source target := by
  simp only [grantsFor, enqueueOutbound_fifo]
  split
  · cases carried : packet.grantFor key <;> simp [carried]
  · rfl

end Reads

/-- All hosts agree with a phase of the token of a block. -/
structure TokenAt (state : TokenState cluster)
    (leased : cluster.Host → Nat → Option TokenLease) (key : BlockKey)
    (phase : TokenPhase cluster) : Prop where
  /-- The token is available exactly where it has landed. -/
  available : ∀ host, (state.localObject host key).available = true ↔
    phase.landed = true ∧ host = (state.block key).tokenOwner
  /-- The token is held exactly where it is in use. -/
  held : ∀ host, (state.localObject host key).held = true ↔
    phase.inUse = true ∧ host = (state.block key).tokenOwner
  leases : ∀ holder, state.leaseFor leased key holder = phase.leaseOf holder
  /-- The grants under way are those of the phase. -/
  grants : ∀ source destination,
    state.grantsFor key source destination =
      phase.grantsOn (state.block key).tokenOwner source destination
  /-- Leases and grants carry current metadata. -/
  current : phase.Current key (state.block key)
  even : phase.inUse = false → (state.block key).writebackEpoch % 2 = 0

/-- Pending queues hold requests for their own block. -/
def PendingKeys (state : TokenState cluster) : Prop :=
  ∀ host key request, request ∈ (state.localObject host key).pending → request.key = key

/-- The token invariant of every run: each block's token is in some phase. -/
structure TokenInv (state : TokenState cluster)
    (leased : cluster.Host → Nat → Option TokenLease) : Prop where
  /-- Nothing retires. -/
  allLive : state.AllLive
  /-- No packet waits for its own sender. -/
  selfQueues : state.SelfQueuesEmpty
  /-- Requests wait at their own block. -/
  pendingKeys : state.PendingKeys
  phases : ∀ key, ∃ phase, state.TokenAt leased key phase

namespace TokenAt

variable {state after : TokenState cluster}
  {leased : cluster.Host → Nat → Option TokenLease} {key : BlockKey}
  {phase : TokenPhase cluster}

/-- A phase only depends on the sidecar, the two local flags, the leases and the grants. -/
theorem congr (at_ : state.TokenAt leased key phase)
    {leased' : cluster.Host → Nat → Option TokenLease}
    (block : after.block key = state.block key)
    (available : ∀ host,
      (after.localObject host key).available = (state.localObject host key).available)
    (held : ∀ host, (after.localObject host key).held = (state.localObject host key).held)
    (leases : ∀ holder, after.leaseFor leased' key holder = state.leaseFor leased key holder)
    (grants : ∀ source destination,
      after.grantsFor key source destination = state.grantsFor key source destination) :
    after.TokenAt leased' key phase where
  available host := by rw [available, block, at_.available]
  held host := by rw [held, block, at_.held]
  leases holder := by rw [leases, at_.leases]
  grants source destination := by rw [grants, block, at_.grants]
  current := by
    rw [block]
    exact at_.current
  even := by
    rw [block]
    exact at_.even

theorem idle_of_available (at_ : state.TokenAt leased key phase) {host : cluster.Host}
    (available : (state.localObject host key).available = true)
    (free : ¬(state.localObject host key).held = true) :
    phase = .idle ∧ host = (state.block key).tokenOwner := by
  obtain ⟨landed, owner⟩ := (at_.available host).mp available
  refine ⟨?_, owner⟩
  cases phase with
  | idle => rfl
  | busy | leased => exact (free ((at_.held host).mpr ⟨rfl, owner⟩)).elim
  | flying | lost => simp [TokenPhase.landed] at landed

/-- A lease for the block determines the phase. -/
theorem leased_of_lease (at_ : state.TokenAt leased key phase) {holder : LeaseHolder cluster}
    {lease : TokenLease} (found : state.leaseFor leased key holder = some lease) :
    phase = .leased holder lease := by
  have leases := at_.leases holder
  rw [found] at leases
  cases phase with
  | leased other otherLease =>
      simp only [TokenPhase.leaseOf] at leases
      split at leases
      · rename_i same
        rw [same, Option.some.inj leases]
      · exact (Option.some_ne_none _ leases).elim
  | idle | busy | flying | lost => simp [TokenPhase.leaseOf] at leases

theorem flying_of_grant (at_ : state.TokenAt leased key phase) {source destination : cluster.Host}
    {grant : TokenGrant cluster} (member : grant ∈ state.grantsFor key source destination) :
    phase = .flying source grant ∧ destination = (state.block key).tokenOwner := by
  rw [at_.grants] at member
  cases phase with
  | flying from_ other =>
      simp only [TokenPhase.grantsOn] at member
      split at member
      · rename_i same
        obtain ⟨rfl, rfl⟩ := same
        rw [List.mem_singleton.mp member]
        exact ⟨rfl, rfl⟩
      · simp at member
  | idle | busy | leased | lost => simp [TokenPhase.grantsOn] at member

theorem mem_of_flying {source : cluster.Host} {grant : TokenGrant cluster}
    (at_ : state.TokenAt leased key (.flying source grant)) :
    Packet.grant grant ∈ state.fifo source (state.block key).tokenOwner := by
  have member : grant ∈ state.grantsFor key source (state.block key).tokenOwner := by
    simp [at_.grants, TokenPhase.grantsOn]
  exact (mem_grantsFor.mp member).1

/-! ## Moves between phases -/

theorem take (at_ : state.TokenAt leased key .idle) {host : cluster.Host}
    (owner : host = (state.block key).tokenOwner) :
    (state.setLocal host key
      { state.localObject host key with held := true }).TokenAt leased key .busy where
  available other := by
    have available := at_.available other
    by_cases same : other = host
    · subst same
      simpa [TokenPhase.landed] using available
    · simpa [TokenPhase.landed, same] using available
  held other := by
    by_cases same : other = host
    · subst same
      simp [TokenPhase.inUse, ← owner]
    · have held := at_.held other
      have apart : other ≠ (state.block key).tokenOwner := fun equal =>
        same (equal.trans owner.symm)
      simpa [TokenPhase.inUse, same, apart] using held
  leases holder := by simpa [TokenPhase.leaseOf] using at_.leases holder
  grants source destination := by simpa [TokenPhase.grantsOn] using at_.grants source destination
  current := trivial
  even := by simp [TokenPhase.inUse]

/-- A busy token without an open epoch comes to rest. -/
theorem rest (at_ : state.TokenAt leased key .busy) {host : cluster.Host}
    (owner : host = (state.block key).tokenOwner)
    (even : (state.block key).writebackEpoch % 2 = 0) (pending : List (TokenRequest cluster)) :
    (state.setLocal host key
      { state.localObject host key with held := false, pending := pending }).TokenAt leased key
        .idle where
  available other := by
    have available := at_.available other
    by_cases same : other = host
    · subst same
      simpa [TokenPhase.landed] using available
    · simpa [TokenPhase.landed, same] using available
  held other := by
    by_cases same : other = host
    · simp [TokenPhase.inUse, same]
    · have held := at_.held other
      have apart : other ≠ (state.block key).tokenOwner := fun equal =>
        same (equal.trans owner.symm)
      simpa [TokenPhase.inUse, same, apart] using held
  leases holder := by simpa [TokenPhase.leaseOf] using at_.leases holder
  grants source destination := by simpa [TokenPhase.grantsOn] using at_.grants source destination
  current := trivial
  even _ := by simpa using even

/-- The user of a token may open and close epochs and count versions. -/
theorem write (at_ : state.TokenAt leased key phase) (inUse : phase.inUse = true)
    {block : CoherenceBlockDescriptor cluster}
    (owner : block.tokenOwner = (state.block key).tokenOwner)
    (epoch : block.tokenEpoch = (state.block key).tokenEpoch) :
    (state.setBlock key block).TokenAt leased key phase where
  available other := by simpa [owner] using at_.available other
  held other := by simpa [owner] using at_.held other
  leases holder := by simpa using at_.leases holder
  grants source destination := by simpa [owner] using at_.grants source destination
  current := by
    have current := at_.current
    cases phase with
    | leased holder lease => simpa [TokenPhase.Current, owner, epoch] using current
    | busy => trivial
    | idle | flying | lost => simp [TokenPhase.inUse] at inUse
  even idle := by simp [inUse] at idle

theorem grantTo (at_ : state.TokenAt leased key .busy) {host : cluster.Host} (requestId : Nat)
    {waiter : Waiter} (granted : waiter.state = .granted)
    (owner : host = (state.block key).tokenOwner) (leaseKey : waiter.lease.key = key)
    (epoch : waiter.lease.tokenEpoch = (state.block key).tokenEpoch) :
    (state.setWaiter host requestId (some waiter)).TokenAt leased key
      (.leased (.waiter host requestId) waiter.lease) where
  available other := by simpa [TokenPhase.landed] using at_.available other
  held other := by simpa [TokenPhase.inUse] using at_.held other
  leases holder := by
    have leases := at_.leases holder
    by_cases same : holder = .waiter host requestId
    · simp [TokenPhase.leaseOf, same, grantedLease, granted, leaseKey]
    · simpa [TokenPhase.leaseOf, same] using leases
  grants source destination := by simpa [TokenPhase.grantsOn] using at_.grants source destination
  current := ⟨leaseKey, owner, epoch⟩
  even := by simp [TokenPhase.inUse]

/-- A waiter that has no lease for the block afterwards does not hold it. -/
theorem dropWaiter (at_ : state.TokenAt leased key phase) (host : cluster.Host) (requestId : Nat)
    (replacement : Option Waiter)
    (empty : (grantedLease replacement).filter (fun lease => lease.key = key) = none) :
    (state.setWaiter host requestId replacement).TokenAt leased key
      (phase.without (.waiter host requestId)) where
  available other := by simpa using at_.available other
  held other := by simpa using at_.held other
  leases holder := by
    by_cases same : holder = .waiter host requestId
    · simp [same, empty]
    · simpa [same] using at_.leases holder
  grants source destination := by simpa using at_.grants source destination
  current := at_.current.without _
  even := by simpa using at_.even

/-- A caller whose table entry is not for the block afterwards does not hold it. -/
theorem dropCaller (at_ : state.TokenAt leased key phase) (host : cluster.Host)
    (requestId : Nat) (entry : Option TokenLease)
    (empty : entry.filter (fun lease => lease.key = key) = none) :
    state.TokenAt (updateEntry leased host requestId entry) key
      (phase.without (.caller host requestId)) where
  available := by simpa using at_.available
  held := by simpa using at_.held
  leases holder := by
    have leases := at_.leases holder
    cases holder with
    | waiter otherHost otherId => simpa [leaseFor] using leases
    | caller otherHost otherId =>
        by_cases same : otherHost = host ∧ otherId = requestId
        · simp [leaseFor, same, empty]
        · simpa [leaseFor, same] using leases
  grants := by simpa using at_.grants
  current := at_.current.without _
  even := by simpa using at_.even

/-- A busy token is leased to the caller of a finished wait. -/
theorem leaseTo (at_ : state.TokenAt leased key .busy) {host : cluster.Host} {requestId : Nat}
    {lease : TokenLease} (owner : host = (state.block key).tokenOwner) (leaseKey : lease.key = key)
    (epoch : lease.tokenEpoch = (state.block key).tokenEpoch) :
    state.TokenAt (updateEntry leased host requestId (some lease)) key
      (.leased (.caller host requestId) lease) where
  available := at_.available
  held := at_.held
  leases holder := by
    have leases := at_.leases holder
    cases holder with
    | waiter otherHost otherId => simpa [TokenPhase.leaseOf, leaseFor] using leases
    | caller otherHost otherId =>
        by_cases same : otherHost = host ∧ otherId = requestId
        · simp [TokenPhase.leaseOf, leaseFor, same, leaseKey]
        · simpa [TokenPhase.leaseOf, leaseFor, same] using leases
  grants := at_.grants
  current := ⟨leaseKey, owner, epoch⟩
  even := by simp [TokenPhase.inUse]

/-- A token whose grant arrives is in use at its new owner. -/
theorem land (at_ : state.TokenAt leased key .lost) {host : cluster.Host}
    (owner : host = (state.block key).tokenOwner) (object : LocalObject cluster)
    (available : object.available = true) (held : object.held = true) :
    (state.setLocal host key object).TokenAt leased key .busy where
  available other := by
    by_cases same : other = host
    · subst same
      simp [TokenPhase.landed, available, ← owner]
    · have apart : other ≠ (state.block key).tokenOwner := fun equal =>
        same (equal.trans owner.symm)
      simpa [TokenPhase.landed, same, apart] using at_.available other
  held other := by
    by_cases same : other = host
    · subst same
      simp [TokenPhase.inUse, held, ← owner]
    · have apart : other ≠ (state.block key).tokenOwner := fun equal =>
        same (equal.trans owner.symm)
      simpa [TokenPhase.inUse, same, apart] using at_.held other
  leases holder := by simpa [TokenPhase.leaseOf] using at_.leases holder
  grants source destination := by simpa [TokenPhase.grantsOn] using at_.grants source destination
  current := trivial
  even := by simp [TokenPhase.inUse]

theorem handOff (at_ : state.TokenAt leased key .busy) (empty : state.SelfQueuesEmpty)
    {host : cluster.Host} (owner : host = (state.block key).tokenOwner)
    (even : (state.block key).writebackEpoch % 2 = 0) {request : TokenRequest cluster}
    (requestKey : request.key = key) (remote : request.requester ≠ host) :
    (state.handOff host key request).2.TokenAt leased key
      (.flying host (state.handOffGrant key request)) := by
  obtain ⟨-, -, objects, fifos⟩ := handOff_spec key empty remote
  have elsewhere : ∀ other, other ≠ host → other ≠ (state.block key).tokenOwner :=
    fun other apart equal => apart (equal.trans owner.symm)
  constructor
  case available =>
    intro other
    by_cases same : other = host
    · simp [objects, same, LocalObject.fresh, TokenPhase.landed]
    · simpa [objects, same, elsewhere other same, TokenPhase.landed] using at_.available other
  case held =>
    intro other
    by_cases same : other = host
    · simp [objects, same, LocalObject.fresh, TokenPhase.inUse]
    · simpa [objects, same, elsewhere other same, TokenPhase.inUse] using at_.held other
  case leases =>
    intro holder
    exact (leaseFor_congr leased key (by simp) holder).trans (at_.leases holder)
  case grants =>
    intro source destination
    have grants := at_.grants source destination
    simp only [TokenPhase.grantsOn, grantsFor] at grants
    have requests : ((state.localObject host key).pending.map Packet.request).filterMap
        (Packet.grantFor key) = [] := by
      simp [List.filterMap_eq_nil_iff, Packet.grantFor]
    have carried : (Packet.grant (state.handOffGrant key request)).grantFor key =
        some (state.handOffGrant key request) := by
      simp [Packet.grantFor, handOffGrant, requestKey]
    simp only [grantsFor, fifos, TokenPhase.grantsOn, handOff_block, if_true]
    split
    · rw [List.filterMap_append, grants, List.filterMap_cons, carried, requests]
      rfl
    · exact grants
  case current =>
    simp [TokenPhase.Current, handOffGrant, requestKey, Ne.symm remote]
  case even => exact fun _ => by simpa using even

/-- Popping a packet that carries no grant for the block keeps the phase. -/
theorem pop_other (at_ : state.TokenAt leased key phase) {source destination : cluster.Host}
    {packet : Packet cluster} (popped : state.pop source destination = some (packet, after))
    (other : packet.grantFor key = none) : after.TokenAt leased key phase := by
  refine at_.congr (by rw [(pop_eq_some popped).2.1]) (by simp [pop_localObject popped])
    (by simp [pop_localObject popped]) (leaseFor_congr leased key (by simp [pop_waiter popped])) ?_
  intro from_ to_
  by_cases same : from_ = source ∧ to_ = destination
  · obtain ⟨rfl, rfl⟩ := same
    simp [grantsFor, pop_fifo popped, other]
  · simp [grantsFor, pop_fifo_of_ne popped same]

/-- Between its pop and its handling the token of a grant is nowhere. -/
theorem pop_grant (at_ : state.TokenAt leased key phase) {source destination : cluster.Host}
    {grant : TokenGrant cluster}
    (popped : state.pop source destination = some (.grant grant, after))
    (mine : grant.key = key) :
    phase = .flying source grant ∧ destination = (state.block key).tokenOwner ∧
      after.TokenAt leased key .lost := by
  have carried : (Packet.grant grant).grantFor key = some grant := by simp [Packet.grantFor, mine]
  have member : grant ∈ state.grantsFor key source destination := by
    simp [grantsFor, pop_fifo popped, carried]
  obtain ⟨rfl, rfl⟩ := at_.flying_of_grant member
  refine ⟨rfl, rfl, ?_⟩
  have block := (pop_eq_some popped).2.1
  constructor
  case available => simpa [pop_localObject popped, block, TokenPhase.landed] using at_.available
  case held => simpa [pop_localObject popped, block, TokenPhase.inUse] using at_.held
  case leases =>
    intro holder
    exact (leaseFor_congr leased key (by simp [pop_waiter popped]) holder).trans
      (at_.leases holder)
  case grants =>
    intro from_ to_
    have grants := at_.grants from_ to_
    by_cases same : from_ = source ∧ to_ = (state.block key).tokenOwner
    · obtain ⟨rfl, rfl⟩ := same
      simpa [grantsFor, pop_fifo popped, carried, TokenPhase.grantsOn] using grants
    · simpa [grantsFor, pop_fifo_of_ne popped same, TokenPhase.grantsOn, same] using grants
  case current => trivial
  case even =>
    rw [block]
    exact fun _ => at_.even rfl

end TokenAt

end TokenState
end Cxloom.LoomMem
