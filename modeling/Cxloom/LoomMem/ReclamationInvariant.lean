import Cxloom.LoomMem.Reclamation

/-!
# The invariant of a reclamation

A host that closed an object keeps nothing of it and sends nothing about it any more, so the packets
about the object that were sent lie below the watermarks of the host.  A consumer that reached these
watermarks, with no handler running, has seen the last packet about the object.
-/

namespace Cxloom.LoomMem

variable {cluster : Cluster}

/-! ## Packets about an object -/

namespace Channel

variable {channel : Channel cluster} {object : GlobalPointer} {mark : Nat}

/-- Packets about an object lie below a cursor. -/
def Marked (channel : Channel cluster) (object : GlobalPointer) (mark : Nat) : Prop :=
  ∀ index packet, channel.packets[index]? = some packet → packet.object = some object →
    channel.consumedSequence + index < mark

def Clear (channel : Channel cluster) (object : GlobalPointer) : Prop :=
  ∀ packet ∈ channel.packets, packet.object ≠ some object

theorem marked_publishedSequence (channel : Channel cluster) (object : GlobalPointer) :
    channel.Marked object channel.publishedSequence := by
  intro index packet found _
  obtain ⟨inside, -⟩ := List.getElem?_eq_some_iff.mp found
  exact Nat.add_lt_add_left inside _

theorem Marked.append (marked : channel.Marked object mark) {sent : List (Packet cluster)}
    (other : ∀ packet ∈ sent, packet.object ≠ some object) :
    Marked { channel with packets := channel.packets ++ sent } object mark := by
  intro index packet found about
  by_cases inside : index < channel.packets.length
  · rw [List.getElem?_append_left inside] at found
    exact marked index packet found about
  · rw [List.getElem?_append_right (Nat.not_lt.mp inside)] at found
    exact (other packet (List.mem_of_getElem? found) about).elim

theorem Clear.append (clear : channel.Clear object) {sent : List (Packet cluster)}
    (other : ∀ packet ∈ sent, packet.object ≠ some object) :
    Clear { channel with packets := channel.packets ++ sent } object := by
  intro packet member
  rcases List.mem_append.mp member with old | new
  · exact clear packet old
  · exact other packet new

/-- A consumer behind the cursor has popped every packet about the object. -/
theorem Marked.clear (marked : channel.Marked object mark)
    (reached : mark ≤ channel.consumedSequence) : channel.Clear object := by
  intro packet member about
  obtain ⟨index, found⟩ := List.mem_iff_getElem?.mp member
  have below := marked index packet found about
  omega

end Channel

namespace TokenState

variable {before after : TokenState cluster} {host : cluster.Host} {object : GlobalPointer}

theorem Filed.congr (filed : before.Filed host)
    (service : after.service host = before.service host) : after.Filed host := by
  intro key request member
  rw [localObject, service] at member
  exact filed key request member

theorem Idle.congr {key : BlockKey} (idle : before.Idle host key)
    (service : after.service host = before.service host) : after.Idle host key := by
  rwa [Idle, localObject, service]

theorem Rid.congr (rid : before.Rid host object)
    (service : after.service host = before.service host)
    (unallocated : (after.descriptor object).state ≠ .allocated) : after.Rid host object where
  unallocated := unallocated
  waiters := by
    intro requestId waiter found
    rw [TokenState.waiter, service] at found
    exact rid.waiters requestId waiter found
  blocks index := (rid.blocks index).congr service
  outbound := by
    intro destination packet member
    rw [TokenState.outbound, service] at member
    exact rid.outbound destination packet member

/-! ## What holds without a transaction -/

/-- Objects that do not exist leave nothing behind. -/
structure Sound (state : TokenState cluster) : Prop where
  /-- Requests wait at their blocks. -/
  filed : ∀ host, state.Filed host
  /-- Nothing is known of blocks beyond the last one. -/
  beyond : ∀ host key,
    (state.descriptor key.object).coherenceBlockCount ≤ key.blockIndex → state.Idle host key
  rid : ∀ object, (state.descriptor object).state = .empty → ∀ host, state.Rid host object
  /-- No packet in flight is about an object that does not exist. -/
  clear : ∀ object, (state.descriptor object).state = .empty → ∀ source destination,
    (state.channel source destination).Clear object
  valid : ∀ object, (state.descriptor object).state = .retiring →
    object.regionId = 0 ∧ object.offset ≠ 0
  /-- No host sends token messages to itself. -/
  loopback : ∀ host, ∀ packet ∈ (state.channel host host).packets, packet.object = none

/-- A step that ends no object and creates none. -/
structure Keeps (before after : TokenState cluster) : Prop where
  /-- An allocated object may begin to retire. -/
  lifecycle : ∀ object, (after.descriptor object).state = (before.descriptor object).state ∨
    (before.descriptor object).state = .allocated ∧ (after.descriptor object).state = .retiring ∧
      object.regionId = 0 ∧ object.offset ≠ 0
  blockCount : ∀ object, (after.descriptor object).coherenceBlockCount =
    (before.descriptor object).coherenceBlockCount
  sealedHosts : ∀ object (host : cluster.Host),
    (before.descriptor object).sealedHosts.contains host = true →
    (after.descriptor object).sealedHosts.contains host = true
  quiet : ∀ object (host : cluster.Host),
    (before.descriptor object).sealedHosts.contains host = true →
    (before.descriptor object).activeOperations host = 0 →
    (after.descriptor object).activeOperations host = 0
  rid : ∀ host object, before.Rid host object → after.Rid host object
  /-- A block that may not be requested stays idle. -/
  idle : ∀ host key, ¬before.Usable key → before.Idle host key → after.Idle host key
  /-- Requests wait at their blocks. -/
  filed : ∀ host, after.Filed host
  /-- No token message is sent to its sender. -/
  loopback : ∀ host, (∀ packet ∈ (before.channel host host).packets, packet.object = none) →
    ∀ packet ∈ (after.channel host host).packets, packet.object = none
  marked : ∀ source destination object mark, before.Rid source object →
    (before.channel source destination).Marked object mark →
    (after.channel source destination).Marked object mark
  clear : ∀ source destination object, before.Rid source object →
    (before.channel source destination).Clear object →
    (after.channel source destination).Clear object
  consumed : ∀ source destination,
    (before.channel source destination).consumedSequence ≤
      (after.channel source destination).consumedSequence

theorem Keeps.unallocated (keeps : Keeps before after)
    (unallocated : (before.descriptor object).state ≠ .allocated) :
    (after.descriptor object).state = (before.descriptor object).state :=
  (keeps.lifecycle object).resolve_right fun retires => unallocated retires.1

theorem Keeps.empty (keeps : Keeps before after)
    (empty : (after.descriptor object).state = .empty) :
    (before.descriptor object).state = .empty := by
  rcases keeps.lifecycle object with same | ⟨-, retires, -⟩
  · rw [← same, empty]
  · rw [empty] at retires
    cases retires

theorem Keeps.existence (keeps : Keeps before after) (object : GlobalPointer) :
    (after.descriptor object).state = .empty ↔ (before.descriptor object).state = .empty := by
  constructor
  · exact keeps.empty
  · intro empty
    rw [keeps.unallocated (by rw [empty]; decide)]
    exact empty

theorem Sound.keep (sound : before.Sound) (keeps : Keeps before after) : after.Sound where
  filed := keeps.filed
  beyond := by
    intro host key outside
    rw [keeps.blockCount] at outside
    refine keeps.idle host key (fun usable => ?_) (sound.beyond host key outside)
    exact (Nat.not_lt.mpr outside) usable.2
  rid object empty host := keeps.rid host object (sound.rid object (keeps.empty empty) host)
  clear object empty source destination :=
    keeps.clear source destination object (sound.rid object (keeps.empty empty) source)
      (sound.clear object (keeps.empty empty) source destination)
  valid := by
    intro object retires
    rcases keeps.lifecycle object with same | ⟨-, -, valid⟩
    · exact sound.valid object (same ▸ retires)
    · exact valid
  loopback host := keeps.loopback host (sound.loopback host)

theorem Confined.keeps (confined : Confined host before after)
    (filed : ∀ other, before.Filed other) : Keeps before after where
  lifecycle object := .inl (by rw [confined.descriptor])
  blockCount object := by rw [confined.descriptor]
  sealedHosts object other isSealed := by rwa [confined.descriptor]
  quiet object other _ quiet := by rwa [confined.descriptor]
  rid other object rid := by
    by_cases same : other = host
    · subst same
      exact confined.rid object rid
    · refine rid.congr (confined.service other same) ?_
      rw [confined.descriptor]
      exact rid.unallocated
  idle other key unusable idle := by
    by_cases same : other = host
    · subst same
      exact confined.idle key unusable idle
    · rwa [Idle, localObject, confined.service other same]
  filed other := by
    by_cases same : other = host
    · subst same
      exact confined.filed
    · exact (filed other).congr (confined.service other same)
  loopback other silent := by
    by_cases same : other = host
    · subst same
      obtain ⟨sent, shape, self, -⟩ := confined.sends other
      rw [shape]
      intro packet member
      rcases List.mem_append.mp member with old | new
      · exact silent packet old
      · exact self rfl packet new
    · rwa [confined.channel other same]
  marked source destination object mark rid marked := by
    by_cases same : source = host
    · subst same
      obtain ⟨sent, shape, -, other⟩ := confined.sends destination
      rw [shape]
      exact marked.append (other object rid)
    · rwa [confined.channel source same]
  clear source destination object rid clear := by
    by_cases same : source = host
    · subst same
      obtain ⟨sent, shape, -, other⟩ := confined.sends destination
      rw [shape]
      exact clear.append (other object rid)
    · rwa [confined.channel source same]
  consumed source destination := by
    by_cases same : source = host
    · subst same
      obtain ⟨sent, shape, -⟩ := confined.sends destination
      rw [shape]
    · rw [confined.channel source same]

/-- A change of descriptors that ends no object, creates none and admits nothing behind a seal. -/
theorem Keeps.of_descriptor (filed : ∀ other, before.Filed other)
    (service : after.service = before.service) (channel : after.channel = before.channel)
    (lifecycle : ∀ object, (after.descriptor object).state = (before.descriptor object).state ∨
      (before.descriptor object).state = .allocated ∧
        (after.descriptor object).state = .retiring ∧ object.regionId = 0 ∧ object.offset ≠ 0)
    (blockCount : ∀ object, (after.descriptor object).coherenceBlockCount =
      (before.descriptor object).coherenceBlockCount)
    (sealedHosts : ∀ object (host : cluster.Host),
      (before.descriptor object).sealedHosts.contains host = true →
      (after.descriptor object).sealedHosts.contains host = true)
    (quiet : ∀ object (host : cluster.Host),
      (before.descriptor object).sealedHosts.contains host = true →
      (before.descriptor object).activeOperations host = 0 →
      (after.descriptor object).activeOperations host = 0) : Keeps before after where
  lifecycle := lifecycle
  blockCount := blockCount
  sealedHosts := sealedHosts
  quiet := quiet
  rid host object rid := by
    refine rid.congr (by rw [service]) ?_
    rcases lifecycle object with same | ⟨allocated, -⟩
    · rw [same]
      exact rid.unallocated
    · exact (rid.unallocated allocated).elim
  idle host key _ idle := idle.congr (by rw [service])
  filed host := (filed host).congr (by rw [service])
  loopback host silent := by rwa [channel]
  marked source destination object mark _ marked := by rwa [channel]
  clear source destination object _ clear := by rwa [channel]
  consumed source destination := by rw [channel]

theorem Keeps.pop (filed : ∀ other, before.Filed other) {source destination : cluster.Host}
    {packet : Packet cluster} (popped : before.pop source destination = some (packet, after)) :
    Keeps before after := by
  obtain ⟨descriptor, -, service, packets, consumed, others⟩ := pop_eq_some popped
  have channels : ∀ first second, after.channel first second = before.channel first second ∨
      (before.channel first second).packets = packet :: (after.channel first second).packets ∧
        (after.channel first second).consumedSequence =
          (before.channel first second).consumedSequence + 1 := by
    intro first second
    by_cases here : first = source ∧ second = destination
    · obtain ⟨rfl, rfl⟩ := here
      exact .inr ⟨packets, consumed⟩
    · exact .inl (others first second here)
  refine
    { lifecycle := fun object => .inl (by rw [descriptor])
      blockCount := fun object => by rw [descriptor]
      sealedHosts := fun object host isSealed => by rwa [descriptor]
      quiet := fun object host _ quiet => by rwa [descriptor]
      rid := fun host object rid => rid.congr (by rw [service]) (by
        rw [descriptor]
        exact rid.unallocated)
      idle := fun host key _ idle => idle.congr (by rw [service])
      filed := fun host => (filed host).congr (by rw [service])
      loopback := fun host silent other member => ?_
      marked := fun first second object mark _ marked => ?_
      clear := fun first second object _ clear other member => ?_
      consumed := fun first second => ?_ }
  · rcases channels host host with same | ⟨tail, -⟩
    · exact silent other (same ▸ member)
    · exact silent other (tail ▸ List.mem_cons_of_mem _ member)
  · rcases channels first second with same | ⟨tail, advanced⟩
    · rwa [same]
    · intro index other found about
      have below := marked (index + 1) other (by rw [tail]; exact found) about
      omega
  · rcases channels first second with same | ⟨tail, -⟩
    · exact clear other (same ▸ member)
    · exact clear other (tail ▸ List.mem_cons_of_mem _ member)
  · rcases channels first second with same | ⟨-, advanced⟩
    · rw [same]
    · omega

end TokenState

namespace Reclamation

/-! ## What a transaction establishes -/

/-- A host closed an object and recorded its cursors. -/
structure Closed (state : TokenState cluster) (object : GlobalPointer)
    (watermarks : HostId → HostId → Nat) (host : cluster.Host) : Prop where
  sealedHost : (state.descriptor object).sealedHosts.contains host = true
  quiet : (state.descriptor object).activeOperations host = 0
  rid : state.Rid host object
  /-- The packets about the object that the host sent lie below its cursors. -/
  marked : ∀ other, other ≠ host →
    (state.channel host other).Marked object (watermarks (hostId host) (hostId other))

/-- What the acknowledgements of an active transaction establish. -/
structure Progressing (state : TokenState cluster) (control : RetirementControl)
    (accepted : List Acknowledgement) : Prop where
  retiring : (state.descriptor control.current.object).state = .retiring
  participants : control.current.hostCount = cluster.hostCount
  closed : ∀ host : cluster.Host, control.closed.contains host = true →
    Closed state control.current.object control.watermarks host
  drained : ∀ host : cluster.Host, control.drained.contains host = true →
    control.current.phase ≠ .closing ∧
      ∀ source, (state.channel source host).Clear control.current.object
  allClosed : control.current.phase ≠ .closing →
    ∀ host : cluster.Host, control.closed.contains host = true
  allDrained : control.current.phase = .cleaning ∨ control.current.phase = .reclaimable →
    ∀ host : cluster.Host, control.drained.contains host = true
  allCleaned : control.current.phase = .reclaimable →
    ∀ host : cluster.Host, control.cleaned.contains host = true
  /-- Every acknowledgement was accepted in this transaction. -/
  logged : ∀ phase (host : cluster.Host), (mask control phase).contains host = true →
    phase = .closing ∨ phase = .draining ∨ phase = .cleaning →
    ∃ acknowledgement ∈ accepted, acknowledgement.sequence = control.current.sequence ∧
      acknowledgement.phase = phase ∧ acknowledgement.host = hostId host

/-- A phase that hosts acknowledge. -/
def Active (phase : RetirementPhase) : Prop :=
  phase = .closing ∨ phase = .draining ∨ phase = .cleaning

/-- A host has to acknowledge the current phase. -/
structure Owes (control : RetirementControl) (host : cluster.Host)
    (transaction : RetirementSnapshot) : Prop where
  current : transaction = control.current
  active : Active transaction.phase
  missing : (mask control transaction.phase).contains host = false

theorem Owes.busy {control : RetirementControl} {host : cluster.Host}
    {transaction : RetirementSnapshot} (owes : Owes control host transaction) :
    control.current.phase ≠ .idle := by
  rw [← owes.current]
  rcases owes.active with closing | draining | cleaning <;> simp [*]

/-- What the cursors of the queues below a host certify. -/
structure Sampled (state : TokenState cluster) (host : cluster.Host)
    (transaction : RetirementSnapshot) (cursors : HostId → Nat) (next : Nat) : Prop where
  rid : transaction.phase = .closing → state.Rid host transaction.object
  /-- Packets about the object lie below the producer cursors. -/
  marked : transaction.phase = .closing → ∀ other : cluster.Host, other ≠ host →
    other.val < next → (state.channel host other).Marked transaction.object (cursors (hostId other))
  reached : transaction.phase = .draining → ∀ other : cluster.Host, other ≠ host →
    cursors (hostId other) ≤ (state.channel other host).consumedSequence

/-- What a poller knows of a transaction that it observed. -/
structure Known (control : RetirementControl) (transaction : RetirementSnapshot) : Prop where
  past : transaction.sequence ≤ control.current.sequence
  same : transaction.sequence = control.current.sequence →
    transaction = { control.current with phase := transaction.phase }
  active : Active transaction.phase

/-- What holds where a poller stands. -/
def Standing (state : TokenState cluster) (control : RetirementControl) (host : cluster.Host) :
    PollerPoint cluster → Prop
  | .scanning | .flushed => True
  | .handling packet => ∀ object, packet.object = some object →
      (state.descriptor object).state ≠ .empty ∧
        (control.current.phase ≠ .idle → control.drained.contains host = true →
          object ≠ control.current.object)
  | .observed transaction => Known control transaction
  | .owing transaction => Owes control host transaction
  | .forgotten transaction => Owes control host transaction ∧ transaction.phase = .cleaning
  | .sampling transaction cursors next =>
      Owes control host transaction ∧ Sampled state host transaction cursors next
  | .acknowledging transaction cursors =>
      Owes control host transaction ∧ Sampled state host transaction cursors cluster.hostCount

section Keep

variable {before after : TokenState cluster} {control : RetirementControl} {host : cluster.Host}

theorem Closed.keep {object : GlobalPointer} {watermarks : HostId → HostId → Nat}
    (closed : Closed before object watermarks host) (keeps : before.Keeps after) :
    Closed after object watermarks host where
  sealedHost := keeps.sealedHosts object host closed.sealedHost
  quiet := keeps.quiet object host closed.sealedHost closed.quiet
  rid := keeps.rid host object closed.rid
  marked other apart := keeps.marked host other object _ closed.rid (closed.marked other apart)

theorem Progressing.keep {accepted : List Acknowledgement}
    (progressing : Progressing before control accepted) (keeps : before.Keeps after) :
    Progressing after control accepted where
  retiring := by
    rw [keeps.unallocated (by rw [progressing.retiring]; decide)]
    exact progressing.retiring
  participants := progressing.participants
  closed other acknowledged := (progressing.closed other acknowledged).keep keeps
  drained other acknowledged := by
    obtain ⟨behind, clear⟩ := progressing.drained other acknowledged
    refine ⟨behind, fun source => keeps.clear source other _ ?_ (clear source)⟩
    exact (progressing.closed source (progressing.allClosed behind source)).rid
  allClosed := progressing.allClosed
  allDrained := progressing.allDrained
  allCleaned := progressing.allCleaned
  logged := progressing.logged

theorem Sampled.keep {transaction : RetirementSnapshot} {cursors : HostId → Nat} {next : Nat}
    (sampled : Sampled before host transaction cursors next) (keeps : before.Keeps after) :
    Sampled after host transaction cursors next where
  rid closing := keeps.rid host _ (sampled.rid closing)
  marked closing other apart below :=
    keeps.marked host other _ _ (sampled.rid closing) (sampled.marked closing other apart below)
  reached draining other apart :=
    (sampled.reached draining other apart).trans (keeps.consumed other host)

theorem Standing.keep {point : PollerPoint cluster} (standing : Standing before control host point)
    (keeps : before.Keeps after) : Standing after control host point := by
  cases point with
  | scanning | flushed => trivial
  | handling packet =>
      intro object about
      exact ⟨fun empty => (standing object about).1 (keeps.empty empty), (standing object about).2⟩
  | observed | owing => exact standing
  | sampling => exact ⟨standing.1, standing.2.keep keeps⟩
  | forgotten => exact standing
  | acknowledging => exact ⟨standing.1, standing.2.keep keeps⟩

end Keep

/-! ## The invariant -/

variable {limits : cluster.Host → CacheLimits} {config after : Reclamation cluster}

/-- The invariant of every run. -/
structure Invariant (limits : cluster.Host → CacheLimits) (config : Reclamation cluster) :
    Prop where
  /-- Objects that do not exist leave nothing behind. -/
  sound : config.state.Sound
  /-- What the transaction has established. -/
  progressing : config.retirement.current.phase ≠ .idle →
    Progressing config.state config.retirement config.accepted
  standing : ∀ host, Standing config.state config.retirement host (config.poller host)
  kept : ∀ host, ReplicaCache.Kept ((limits host).config host) (config.view host)

/-- The caches see objects by their shape, their existence and their holders. -/
theorem view_congr (before after : Reclamation cluster) (cache : after.cache = before.cache)
    (info : after.info = before.info)
    (existence : ∀ object, (after.descriptor object).state = .empty ↔
      (before.descriptor object).state = .empty)
    (holders : ∀ object, (after.descriptor object).replicaHosts =
      (before.descriptor object).replicaHosts) (host : cluster.Host) :
    after.view host = before.view host := by
  have objects : after.sharedObjects = before.sharedObjects := by
    funext offset
    simp only [sharedObjects, existence, holders, info]
  rw [view, view, cache, objects]

/-- A step that keeps objects, leaves the control alone and moves at most one poller. -/
theorem Invariant.keep (invariant : Invariant limits config)
    (keeps : config.state.Keeps after.state) (retirement : after.retirement = config.retirement)
    (accepted : after.accepted = config.accepted)
    (standing : ∀ host, after.poller host = config.poller host ∨
      Standing after.state after.retirement host (after.poller host))
    (kept : ∀ host, ReplicaCache.Kept ((limits host).config host) (after.view host)) :
    Invariant limits after where
  sound := invariant.sound.keep keeps
  progressing := by
    intro busy
    rw [retirement] at busy ⊢
    rw [accepted]
    exact (invariant.progressing busy).keep keeps
  standing := by
    intro host
    rcases standing host with stays | moves
    · rw [stays, retirement]
      exact (invariant.standing host).keep keeps
    · exact moves
  kept := kept

/-- An operation of one host that may move its poller. -/
theorem Invariant.confined (invariant : Invariant limits config) {host : cluster.Host}
    {state : TokenState cluster} (confined : config.state.Confined host state)
    (same : after.state = state) (cache : after.cache = config.cache)
    (info : after.info = config.info) (retirement : after.retirement = config.retirement)
    (accepted : after.accepted = config.accepted)
    (standing : ∀ other, after.poller other = config.poller other ∨
      Standing after.state after.retirement other (after.poller other)) :
    Invariant limits after := by
  subst same
  have keeps := confined.keeps invariant.sound.filed
  refine invariant.keep keeps retirement accepted standing fun other => ?_
  rw [view_congr config after cache info keeps.existence (fun object => by
    rw [descriptor, descriptor, confined.descriptor])]
  exact invariant.kept other

end Reclamation
end Cxloom.LoomMem
