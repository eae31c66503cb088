import Cxloom.LoomMem.TokenClose
import Cxloom.LoomMem.TokenRun

/-!
# What an operation of one host leaves alone

An operation changes the services of its host and appends to the channels that leave it.  It keeps
an object that is not allocated as it found it: a host that has nothing of such an object gets
nothing of it and sends nothing about it.
-/

namespace Cxloom.LoomMem

variable {cluster : Cluster}

namespace TokenState

/-- A block exists and may be requested. -/
def Usable (state : TokenState cluster) (key : BlockKey) : Prop :=
  (state.descriptor key.object).state = .allocated ∧
    key.blockIndex < (state.descriptor key.object).coherenceBlockCount

/-- A host neither holds a block nor queues requests for it. -/
def Idle (state : TokenState cluster) (host : cluster.Host) (key : BlockKey) : Prop :=
  (state.localObject host key).pending = [] ∧ (state.localObject host key).held = false

/-- No request of a host for an object is under way. -/
def Unrequested (state : TokenState cluster) (host : cluster.Host) (object : GlobalPointer) :
    Prop :=
  ∀ requestId waiter, state.waiter host requestId = some waiter → waiter.object ≠ object

/-- A host has nothing of an object that is not allocated. -/
structure Rid (state : TokenState cluster) (host : cluster.Host) (object : GlobalPointer) :
    Prop where
  unallocated : (state.descriptor object).state ≠ .allocated
  /-- No request for the object is under way. -/
  waiters : state.Unrequested host object
  blocks : ∀ index, state.Idle host ⟨object, index⟩
  /-- No deferred packet is about the object. -/
  outbound : ∀ destination, ∀ packet ∈ state.outbound host destination,
    packet.object ≠ some object

/-- Requests wait at the block that they name. -/
def Filed (state : TokenState cluster) (host : cluster.Host) : Prop :=
  ∀ key, ∀ request ∈ (state.localObject host key).pending, request.key = key

/-- A change that an operation of one host may make. -/
structure Confined (host : cluster.Host) (before after : TokenState cluster) : Prop where
  descriptor : after.descriptor = before.descriptor
  service : ∀ other, other ≠ host → after.service other = before.service other
  channel : ∀ source, source ≠ host → after.channel source = before.channel source
  /-- Packets are appended to the channels of the host. -/
  sends : ∀ destination, ∃ sent,
    after.channel host destination =
      { before.channel host destination with
        packets := (before.channel host destination).packets ++ sent } ∧
    (destination = host → ∀ packet ∈ sent, packet.object = none) ∧
    ∀ object, before.Rid host object → ∀ packet ∈ sent, packet.object ≠ some object
  waiters : ∀ object, (before.descriptor object).state ≠ .allocated →
    before.Unrequested host object → after.Unrequested host object
  rid : ∀ object, before.Rid host object → after.Rid host object
  /-- The host gets nothing of a block that may not be requested. -/
  idle : ∀ key, ¬before.Usable key → before.Idle host key → after.Idle host key
  /-- Requests wait at their blocks. -/
  filed : after.Filed host

namespace Confined

variable {state before middle after : TokenState cluster} {host : cluster.Host} {key : BlockKey}

theorem refl (filed : state.Filed host) : Confined host state state where
  descriptor := rfl
  service _ _ := rfl
  channel _ _ := rfl
  sends destination := ⟨[], by simp, by simp, by simp⟩
  waiters _ _ := id
  rid _ := id
  idle _ _ := id
  filed := filed

theorem trans (first : Confined host before middle) (second : Confined host middle after) :
    Confined host before after where
  descriptor := second.descriptor.trans first.descriptor
  service other apart := (second.service other apart).trans (first.service other apart)
  channel source apart := (second.channel source apart).trans (first.channel source apart)
  sends := by
    intro destination
    obtain ⟨early, earlyShape, earlySelf, earlyRid⟩ := first.sends destination
    obtain ⟨late, lateShape, lateSelf, lateRid⟩ := second.sends destination
    refine ⟨early ++ late, by rw [lateShape, earlyShape]; simp, ?_, ?_⟩
    · intro self packet member
      rcases List.mem_append.mp member with inEarly | inLate
      · exact earlySelf self packet inEarly
      · exact lateSelf self packet inLate
    · intro object rid packet member
      rcases List.mem_append.mp member with inEarly | inLate
      · exact earlyRid object rid packet inEarly
      · exact lateRid object (first.rid object rid) packet inLate
  waiters object unallocated unrequested :=
    second.waiters object (by rwa [first.descriptor]) (first.waiters object unallocated unrequested)
  rid object rid := second.rid object (first.rid object rid)
  idle := by
    intro key unusable idle
    refine second.idle key ?_ (first.idle key unusable idle)
    simpa only [Usable, first.descriptor] using unusable
  filed := second.filed

/-! ## Elementary changes -/

theorem setWaiter (filed : state.Filed host) {requestId : Nat} {replacement : Option Waiter}
    (origin : ∀ waiter, replacement = some waiter →
      (state.descriptor waiter.object).state = .allocated ∨
        ∃ old, state.waiter host requestId = some old ∧ old.object = waiter.object) :
    Confined host state (state.setWaiter host requestId replacement) := by
  have waiters : ∀ object, (state.descriptor object).state ≠ .allocated →
      state.Unrequested host object →
      (state.setWaiter host requestId replacement).Unrequested host object := by
    intro object unallocated unrequested otherId waiter found
    rw [setWaiter_waiter] at found
    split at found
    · rintro rfl
      rcases origin waiter found with allocated | ⟨old, registered, same⟩
      · exact unallocated allocated
      · exact unrequested requestId old registered same
    · exact unrequested otherId waiter found
  exact
    { descriptor := rfl
      service := fun other apart => by simp [TokenState.setWaiter, apart]
      channel := fun _ _ => rfl
      sends := fun destination => ⟨[], by simp, by simp, by simp⟩
      waiters := waiters
      rid := fun object rid => ⟨rid.unallocated, waiters object rid.unallocated rid.waiters,
        by simpa [Idle] using rid.blocks, by simpa using rid.outbound⟩
      idle := fun key _ idle => by simpa [Idle] using idle
      filed := by simpa [Filed] using filed }

theorem dropWaiter (filed : state.Filed host) (requestId : Nat) :
    Confined host state (state.setWaiter host requestId none) :=
  setWaiter filed (by simp)

/-- The block was usable, or it becomes idle if it was. -/
theorem setLocal (filed : state.Filed host) {object : LocalObject cluster}
    (keyed : ∀ request ∈ object.pending, request.key = key)
    (idle : ¬state.Usable key → state.Idle host key →
      object.pending = [] ∧ object.held = false) :
    Confined host state (state.setLocal host key object) := by
  have idles : ∀ other, ¬state.Usable other → state.Idle host other →
      (state.setLocal host key object).Idle host other := by
    intro other unusable before
    simp only [Idle, setLocal_localObject, true_and]
    by_cases same : other = key
    · subst same
      simpa using idle unusable before
    · simpa [same, Idle] using before
  refine
    { descriptor := rfl
      service := fun other apart => by simp [TokenState.setLocal, apart]
      channel := fun _ _ => rfl
      sends := fun destination => ⟨[], by simp, by simp, by simp⟩
      waiters := fun object _ unrequested => by simpa [Unrequested] using unrequested
      rid := fun object rid => ⟨rid.unallocated, by simpa [Unrequested] using rid.waiters, ?_,
        by simpa using rid.outbound⟩
      idle := idles
      filed := ?_ }
  · exact fun index => idles _ (fun usable => rid.unallocated usable.1) (rid.blocks index)
  · intro other request member
    simp only [setLocal_localObject, true_and] at member
    split at member
    · rename_i same
      rw [same]
      exact keyed request member
    · exact filed other request member

theorem setBlock (filed : state.Filed host) (block : CoherenceBlockDescriptor cluster) :
    Confined host state (state.setBlock key block) where
  descriptor := rfl
  service _ _ := rfl
  channel _ _ := rfl
  sends destination := ⟨[], by simp [TokenState.setBlock], by simp, by simp⟩
  waiters _ _ := id
  rid _ rid := ⟨rid.unallocated, rid.waiters, rid.blocks, rid.outbound⟩
  idle _ _ := id
  filed := filed

theorem issue (filed : state.Filed host) {object : GlobalPointer}
    (allocated : (state.descriptor object).state = .allocated) :
    Confined host state (state.issue host object) := by
  have waiters : ∀ other, (state.descriptor other).state ≠ .allocated →
      state.Unrequested host other → (state.issue host object).Unrequested host other := by
    intro other unallocated unrequested requestId waiter found
    rw [issue_waiter] at found
    split at found
    · obtain rfl := Option.some.inj found
      rintro rfl
      exact unallocated allocated
    · exact unrequested requestId waiter found
  exact
    { descriptor := rfl
      service := fun other apart => by simp [TokenState.issue, apart]
      channel := fun _ _ => rfl
      sends := fun destination => ⟨[], by simp, by simp, by simp⟩
      waiters := waiters
      rid := fun other rid => ⟨rid.unallocated, waiters other rid.unallocated rid.waiters,
        by simpa [Idle] using rid.blocks, by simpa using rid.outbound⟩
      idle := fun key _ idle => by simpa [Idle] using idle
      filed := by simpa [Filed] using filed }

/-! ## Packets -/

theorem progressOutbound (filed : state.Filed host) :
    Confined host state (state.progressOutbound host).2 where
  descriptor := rfl
  service other apart := by simp [TokenState.progressOutbound, apart]
  channel source apart := by simp [TokenState.progressOutbound, apart]
  sends := by
    intro destination
    refine ⟨(state.outbound host destination).take
      (if (state.service host).outbound host ≠ [] ∧ host ≤ destination then 0
      else cluster.queueCapacity - (state.channel host destination).packets.length),
      by simp [TokenState.progressOutbound, outbound], ?_, ?_⟩
    · rintro rfl packet member
      by_cases empty : (state.service destination).outbound destination = []
      · simp [outbound, empty] at member
      · simp [empty] at member
    · exact fun object rid packet member =>
        rid.outbound destination packet (List.mem_of_mem_take member)
  waiters _ _ unrequested := by simpa [Unrequested] using unrequested
  rid := by
    intro object rid
    refine ⟨rid.unallocated,
      by simpa [Unrequested] using rid.waiters, by simpa [Idle] using rid.blocks, ?_⟩
    intro destination packet member
    exact rid.outbound destination packet
      ((progressOutbound_outbound_suffix state host host destination).subset member)
  idle := by
    intro key _ idle
    simpa [Idle] using idle
  filed := by simpa [Filed] using filed

/-- A packet about an allocated object may be sent. -/
theorem enqueueOutbound (filed : state.Filed host) {destination : cluster.Host}
    {packet : Packet cluster}
    (allocated : ∀ object, packet.object = some object →
      (state.descriptor object).state = .allocated) :
    Confined host state (state.enqueueOutbound host destination packet).2 := by
  have deferred : Confined host state (state.deferPacket host destination packet) :=
    { descriptor := rfl
      service := fun other apart => by simp [deferPacket, apart]
      channel := fun _ _ => rfl
      sends := fun target => ⟨[], by simp [deferPacket], by simp, by simp⟩
      waiters := fun object _ unrequested => by simpa [Unrequested] using unrequested
      rid := by
        intro object rid
        refine ⟨rid.unallocated,
          by simpa [Unrequested] using rid.waiters, by simpa [Idle] using rid.blocks, ?_⟩
        intro target other member
        rw [deferPacket_outbound] at member
        split at member
        · rcases List.mem_append.mp member with old | new
          · exact rid.outbound target other old
          · obtain rfl := List.mem_singleton.mp new
            exact fun about => rid.unallocated (allocated object about)
        · exact rid.outbound target other member
      idle := by
        intro key _ idle
        simpa [Idle] using idle
      filed := by simpa [Filed] using filed }
  rw [enqueueOutbound_eq]
  exact deferred.trans (progressOutbound deferred.filed)

theorem sendRequests (destination : cluster.Host) {requests : List (TokenRequest cluster)}
    (filed : state.Filed host)
    (allocated : ∀ request ∈ requests, (state.descriptor request.key.object).state = .allocated) :
    Confined host state (TokenState.sendRequests host destination requests state).2 := by
  induction requests generalizing state with
  | nil => exact .refl filed
  | cons request rest induction =>
      have sent : Confined host state (state.sendRequest host destination request).2 := by
        refine enqueueOutbound filed fun object about => ?_
        obtain rfl := Option.some.inj about
        exact allocated request List.mem_cons_self
      rw [TokenState.sendRequests_cons]
      split
      · refine sent.trans (induction sent.filed fun other member => ?_)
        rw [sent.descriptor]
        exact allocated other (List.mem_cons_of_mem _ member)
      · exact sent

/-! ## Completion of local requests -/

theorem handleReject (filed : state.Filed host) (message : TokenReject cluster) :
    Confined host state (state.handleReject host message).2 := by
  simp only [TokenState.handleReject]
  split
  · exact .refl filed
  · split
    · exact .refl filed
    · rename_i waiter found
      split
      · exact .refl filed
      · refine setWaiter filed fun completed same => .inr ⟨waiter, found, ?_⟩
        split at same
        · cases same
        · obtain rfl := Option.some.inj same
          rfl

theorem handleCancelAck (filed : state.Filed host) (message : TokenCancelAck cluster) :
    Confined host state (state.handleCancelAck host message).2 := by
  simp only [TokenState.handleCancelAck]
  split
  · exact .refl filed
  · split
    · exact .refl filed
    · rename_i waiter found
      split
      · exact .refl filed
      · refine setWaiter filed fun completed same => .inr ⟨waiter, found, ?_⟩
        split at same
        · cases same
        · obtain rfl := Option.some.inj same
          rfl

theorem reject (filed : state.Filed host) {request : TokenRequest cluster}
    (allocated : (state.descriptor request.key.object).state = .allocated)
    (reason : TokenCompletionReason) :
    Confined host state (state.reject host request reason).2 := by
  simp only [TokenState.reject]
  split
  · exact handleReject filed _
  · refine enqueueOutbound filed fun object about => ?_
    obtain rfl := Option.some.inj about
    exact allocated

theorem acknowledgeCancel (filed : state.Filed host) {message : TokenCancel cluster}
    (answered : message.requester = host ∨
      (state.descriptor message.key.object).state = .allocated)
    (reason : TokenCompletionReason) :
    Confined host state (state.acknowledgeCancel host message reason).2 := by
  simp only [TokenState.acknowledgeCancel]
  split
  · exact handleCancelAck filed _
  · rename_i remote
    refine enqueueOutbound filed fun object about => ?_
    obtain rfl := Option.some.inj about
    exact answered.resolve_left remote

end Confined

/-! ## Admission -/

/-- What the checks of `AcquireReference` establish. -/
structure Reaches (state : TokenState cluster) (host : cluster.Host) (object : GlobalPointer)
    (allowRetiring : Bool) : Prop where
  region : object.regionId = 0
  /-- The pointer is not null. -/
  offset : object.offset ≠ 0
  lifecycle : (state.descriptor object).state = .allocated ∨
    allowRetiring = true ∧ (state.descriptor object).state = .retiring
  unsealed : (state.descriptor object).sealedHosts.contains host = false

theorem reaches_of_referenceStatus {state : TokenState cluster} {host : cluster.Host}
    {object : GlobalPointer} {allowRetiring : Bool}
    (found : (state.referenceStatus object host allowRetiring).isOk = true) :
    state.Reaches host object allowRetiring := by
  have inRange : ¬kMaxHosts ≤ host.val := Nat.not_le.mpr (Cluster.host_lt_max host)
  simp only [referenceStatus, inRange, if_false] at found
  split at found
  · simp at found
  · rename_i place
    split at found
    · simp at found
    · split at found
      · simp at found
      · rename_i lifecycle
        split at found
        · simp at found
        · rename_i unsealed
          push Not at place lifecycle
          refine ⟨place.1, place.2, ?_, by simpa using unsealed⟩
          by_cases allocated : (state.descriptor object).state = .allocated
          · exact .inl allocated
          · exact .inr (lifecycle allocated)

/-- What the checks of `Target` establish. -/
structure Admits (state : TokenState cluster) (host : cluster.Host) (key : BlockKey)
    (allowRetiring : Bool) : Prop extends Reaches state host key.object allowRetiring where
  inside : key.blockIndex < (state.descriptor key.object).coherenceBlockCount

theorem admits_of_target {state : TokenState cluster} {host : cluster.Host} {key : BlockKey}
    {allowRetiring : Bool} (found : (state.target host key allowRetiring).isOk = true) :
    state.Admits host key allowRetiring := by
  simp only [target] at found
  split at found
  · rename_i admitted
    split at found
    · simp at found
    · rename_i inside
      exact ⟨reaches_of_referenceStatus admitted, Nat.not_le.mp inside⟩
  · rename_i refused
    exact (refused found).elim

theorem Admits.usable {state : TokenState cluster} {host : cluster.Host} {key : BlockKey}
    (admits : state.Admits host key false) : state.Usable key :=
  ⟨admits.lifecycle.resolve_right (by simp), admits.inside⟩

/-- An object that may be reached and does not retire is allocated. -/
theorem Admits.allocated {state : TokenState cluster} {host : cluster.Host} {key : BlockKey}
    {allowRetiring : Bool} (admits : state.Admits host key allowRetiring)
    (stays : state.isRetiring key.object = false) :
    (state.descriptor key.object).state = .allocated := by
  refine admits.lifecycle.resolve_right fun retires => ?_
  simp [isRetiring, admits.region, admits.offset, retires.2] at stays

/-- What the checks of a presented lease establish. -/
theorem of_leaseStatus {state : TokenState cluster} {host : cluster.Host} {lease : TokenLease}
    (checked : (state.leaseStatus host lease).isOk = true) :
    state.Admits host lease.key true ∧ (state.localObject host lease.key).held = true := by
  simp only [leaseStatus] at checked
  split at checked
  · rename_i refused
    exact (refused checked).elim
  · rename_i found
    split at checked
    · simp at checked
    · split at checked
      · simp at checked
      · rename_i held
        exact ⟨admits_of_target (not_not.mp found), by simpa using held⟩

namespace Confined

variable {state : TokenState cluster} {host : cluster.Host} {key : BlockKey}

/-! ## Grants and releases -/

theorem activateWriter (filed : state.Filed host) :
    Confined host state (state.activateWriter key).2 := by
  simp only [TokenState.activateWriter]
  split
  · exact setBlock filed _
  · exact .refl filed

theorem activateIf (filed : state.Filed host) (activate : Bool) :
    Confined host state (state.activateIf key activate).2 := by
  simp only [TokenState.activateIf]
  split
  · exact activateWriter filed
  · exact .refl filed

theorem handOff (filed : state.Filed host) {request : TokenRequest cluster}
    (same : request.key = key) (allocated : (state.descriptor key.object).state = .allocated) :
    Confined host state (state.handOff host key request).2 := by
  have moved : Confined host state (state.setBlock key
      { state.block key with
        tokenEpoch := (state.block key).tokenEpoch + 1
        tokenOwner := request.requester }) :=
    setBlock filed _
  have sent := moved.trans (@enqueueOutbound cluster _ host moved.filed request.requester
    (.grant (state.handOffGrant key request)) fun object about => by
      obtain rfl := Option.some.inj about
      simpa [handOffGrant, same] using allocated)
  simp only [TokenState.handOff]
  split
  · have cleared := sent.trans (@setLocal cluster _ host key sent.filed .fresh
      (by simp [LocalObject.fresh]) fun _ _ => ⟨rfl, rfl⟩)
    refine cleared.trans (sendRequests _ cleared.filed fun waiting member => ?_)
    rw [cleared.descriptor, sent.filed key waiting member]
    exact allocated
  · exact sent

theorem completeGrant
    {releaseLate : TokenLease → TokenState cluster → Status × TokenState cluster}
    {lease : TokenLease}
    (late : ∀ state : TokenState cluster, state.Filed host →
      Confined host state (releaseLate lease state).2)
    (filed : state.Filed host) (usable : state.Usable key) {requestId : Nat} {waiter : Waiter}
    (found : state.waiter host requestId = some waiter) :
    Confined host state
      (TokenState.completeGrant releaseLate state host key requestId waiter lease).2 := by
  have owned : Confined host state (state.setLocal host key
      { state.localObject host key with held := true, available := true }) :=
    setLocal filed (filed key) fun unusable => (unusable usable).elim
  have registered : (state.setLocal host key
      { state.localObject host key with held := true, available := true }).waiter host requestId =
        some waiter := by
    simpa using found
  simp only [TokenState.completeGrant]
  split
  · refine (owned.trans (setWaiter owned.filed fun completed same => ?_)).trans (late _ ?_)
    · refine .inr ⟨waiter, registered, ?_⟩
      split at same
      · obtain rfl := Option.some.inj same
        rfl
      · cases same
    · simpa [Filed] using owned.filed
  · refine owned.trans (setWaiter owned.filed fun granted same => ?_)
    obtain rfl := Option.some.inj same
    exact .inr ⟨waiter, registered, rfl⟩

theorem grant {releaseLate : TokenLease → TokenState cluster → Status × TokenState cluster}
    (late : ∀ lease (state : TokenState cluster), lease.key = key → state.Filed host →
      Confined host state (releaseLate lease state).2)
    (filed : state.Filed host)
    (inside : key.blockIndex < (state.descriptor key.object).coherenceBlockCount)
    {request : TokenRequest cluster} (same : request.key = key) :
    Confined host state (TokenState.grant releaseLate state host key request).2 := by
  simp only [TokenState.grant]
  split
  · exact setLocal filed (filed key) fun _ idle => ⟨idle.1, rfl⟩
  · rename_i allocated
    have usable : state.Usable key := ⟨not_not.mp allocated, inside⟩
    split
    · split
      · exact .refl filed
      · rename_i waiter found
        have activated : Confined host state
            (state.activateIf key request.activateCoherenceEpoch).2 := activateIf filed _
        split
        · refine activated.trans
            (completeGrant (fun other => late _ other same) activated.filed ?_ ?_)
          · simpa only [Usable, activated.descriptor] using usable
          · simp only [TokenState.activateIf, TokenState.activateWriter]
            split
            · split
              · exact found
              · exact found
            · exact found
        · exact activated
    · exact handOff filed same usable.1

theorem publishRelease (filed : state.Filed host) (modified : Bool) :
    Confined host state (state.publishRelease host key modified) :=
  setBlock filed _

theorem releasePending {pending : List (TokenRequest cluster)} (lease : TokenLease)
    (keyed : ∀ request ∈ pending, request.key = lease.key) (modified : Bool)
    (filed : state.Filed host) :
    Confined host state (TokenState.releasePending host pending lease modified state).2 := by
  induction pending generalizing state lease modified with
  | nil =>
      rw [TokenState.releasePending]
      dsimp only
      split
      · exact .refl filed
      · rename_i checked
        have held := (of_leaseStatus (not_not.mp checked)).2
        have published := @publishRelease cluster _ _ lease.key filed modified
        split
        · exact .refl filed
        · split
          · exact published.trans (setLocal published.filed (by simp) fun _ _ => ⟨rfl, rfl⟩)
          · exact published.trans (setLocal published.filed (published.filed lease.key)
              fun _ idle => ⟨idle.1, rfl⟩)
  | cons next rest induction =>
      have restKeyed : ∀ request ∈ rest, request.key = lease.key :=
        fun request member => keyed request (List.mem_cons_of_mem _ member)
      rw [TokenState.releasePending]
      dsimp only
      split
      · exact .refl filed
      · rename_i checked
        obtain ⟨admits, held⟩ := of_leaseStatus (not_not.mp checked)
        have published := @publishRelease cluster _ _ lease.key filed modified
        split
        · exact .refl filed
        · split
          · exact published.trans (setLocal published.filed (by simp) fun _ _ => ⟨rfl, rfl⟩)
          · have popped := published.trans (@setLocal cluster _ host lease.key published.filed
              { (state.publishRelease host lease.key modified).localObject host lease.key with
                pending := rest } restKeyed fun _ idle => by
                  have free : (state.localObject host lease.key).held = false := idle.2
                  rw [held] at free
                  cases free)
            refine popped.trans (grant (fun late other same => ?_) popped.filed ?_
              (keyed next List.mem_cons_self))
            · exact induction late
                (fun request member => (restKeyed request member).trans same.symm)
                false
            · rw [popped.descriptor]
              exact admits.inside

theorem release (filed : state.Filed host) (lease : TokenLease) (modified : Bool) :
    Confined host state (state.release host lease modified).2 :=
  releasePending lease (filed lease.key) modified filed

theorem beginWriteback (filed : state.Filed host) (lease : TokenLease) :
    Confined host state (state.beginWriteback host lease).2 := by
  simp only [TokenState.beginWriteback]
  split
  · exact activateWriter filed
  · exact .refl filed

/-! ## Message handlers -/

theorem handleRequest (filed : state.Filed host) {request : TokenRequest cluster}
    (allocated : (state.descriptor request.key.object).state = .allocated) :
    Confined host state (state.handleRequest host request).2 := by
  simp only [TokenState.handleRequest]
  split
  · exact .refl filed
  · split
    · exact reject filed allocated _
    · rename_i found
      have admits := admits_of_target (not_not.mp found)
      have usable : state.Usable request.key := admits.usable
      split
      · exact reject filed allocated _
      · split
        · exact reject filed allocated _
        · split
          · refine enqueueOutbound filed fun object about => ?_
            obtain rfl := Option.some.inj about
            exact allocated
          · split
            · refine setLocal filed (fun waiting member => ?_) fun unusable =>
                (unusable usable).elim
              rcases List.mem_append.mp member with old | new
              · exact filed request.key waiting old
              · rw [List.mem_singleton.mp new]
            · have claimed := @setLocal cluster _ host request.key filed
                { state.localObject host request.key with held := true } (filed request.key)
                fun unusable => (unusable usable).elim
              exact claimed.trans (grant (fun late other _ filed => release filed late false)
                claimed.filed admits.inside rfl)

theorem handleGrant (filed : state.Filed host) (message : TokenGrant cluster) :
    Confined host state (state.handleGrant host message).2 := by
  simp only [TokenState.handleGrant]
  split
  · exact .refl filed
  · split
    · exact handleReject filed _
    · rename_i found
      have usable := (admits_of_target (not_not.mp found)).usable
      split
      · exact .refl filed
      · split
        · exact .refl filed
        · rename_i waiter registered
          have activated : Confined host state
              (state.activateIf message.key message.activateCoherenceEpoch).2 := activateIf filed _
          split
          · refine activated.trans (completeGrant (fun other filed => release filed _ false)
              activated.filed ?_ ?_)
            · simpa only [Usable, activated.descriptor] using usable
            · simp only [TokenState.activateIf, TokenState.activateWriter]
              split
              · split
                · exact registered
                · exact registered
              · exact registered
          · exact activated

theorem handleCancel (filed : state.Filed host) {message : TokenCancel cluster}
    (allocated : (state.descriptor message.key.object).state = .allocated) :
    Confined host state (state.handleCancel host message).2 := by
  simp only [TokenState.handleCancel]
  split
  · exact .refl filed
  · split
    · exact acknowledgeCancel filed (.inr allocated) _
    · split
      · refine enqueueOutbound filed fun object about => ?_
        obtain rfl := Option.some.inj about
        exact allocated
      · have erased := @setLocal cluster _ host message.key filed
          { state.localObject host message.key with
            pending := (state.localObject host message.key).pending.eraseP message.matches }
          (fun request member => filed message.key request (List.mem_of_mem_eraseP member))
          fun _ idle => ⟨by simp [idle.1], idle.2⟩
        exact erased.trans (acknowledgeCancel erased.filed (.inr allocated) _)

theorem sendCancel (filed : state.Filed host) {message : TokenCancel cluster}
    (allocated : (state.descriptor message.key.object).state = .allocated)
    (destination : cluster.Host) :
    Confined host state (state.sendCancel host destination message).2 := by
  simp only [TokenState.sendCancel]
  split
  · exact handleCancel filed allocated
  · refine enqueueOutbound filed fun object about => ?_
    obtain rfl := Option.some.inj about
    exact allocated

theorem handleMessage (filed : state.Filed host) {packet : Packet cluster}
    (lives : ∀ object, packet.object = some object → state.isRetiring object = false →
      (state.descriptor object).state = .allocated) :
    Confined host state (state.handleMessage host packet).2 := by
  cases packet with
  | request message =>
      simp only [TokenState.handleMessage]
      split
      · exact .refl filed
      · rename_i stays
        exact handleRequest filed (lives _ rfl (by simpa using stays))
  | grant message =>
      simp only [TokenState.handleMessage]
      split
      · exact .refl filed
      · exact handleGrant filed message
  | reject message =>
      simp only [TokenState.handleMessage]
      split
      · exact .refl filed
      · exact handleReject filed message
  | cancel message =>
      simp only [TokenState.handleMessage]
      split
      · exact .refl filed
      · rename_i stays
        exact handleCancel filed (lives _ rfl (by simpa using stays))
  | cancelAck message =>
      simp only [TokenState.handleMessage]
      split
      · exact .refl filed
      · exact handleCancelAck filed message
  | application => exact .refl filed

/-! ## Caller operations -/

theorem request (filed : state.Filed host) (activate : Bool) :
    Confined host state (state.request host key activate).2 := by
  simp only [TokenState.request]
  split
  · exact .refl filed
  · rename_i found
    have usable := (admits_of_target (not_not.mp found)).usable
    have issued : Confined host state (state.issue host key.object) := issue filed usable.1
    split
    · have sent := issued.trans (@enqueueOutbound cluster _ host issued.filed
        (state.block key).tokenOwner
        (.request
          { key := key
            requestId := (state.service host).nextRequestId
            observedVersion := (state.block key).version
            requester := host
            activateCoherenceEpoch := activate }) fun object about => by
          obtain rfl := Option.some.inj about
          exact usable.1)
      split
      · exact sent
      · exact sent.trans (dropWaiter sent.filed _)
    · split
      · exact issued.trans (dropWaiter issued.filed _)
      · split
        · refine issued.trans (setLocal issued.filed (fun waiting member => ?_)
            fun unusable => (unusable usable).elim)
          rcases List.mem_append.mp member with old | new
          · exact issued.filed key waiting old
          · rw [List.mem_singleton.mp new]
        · have claimed := issued.trans (@setLocal cluster _ host key issued.filed
            { (state.issue host key.object).localObject host key with held := true }
            (issued.filed key) fun unusable => (unusable usable).elim)
          have activated := claimed.trans (@activateIf cluster _ host key claimed.filed activate)
          split
          · refine activated.trans (setWaiter activated.filed fun waiter same => .inl ?_)
            obtain rfl := Option.some.inj same
            rw [activated.descriptor]
            exact usable.1
          · have restored := activated.trans (@setLocal cluster _ host key activated.filed
              { (state.issue host key.object).localObject host key with held := false }
              (issued.filed key) fun unusable => (unusable (by
                simpa only [Usable, activated.descriptor] using usable)).elim)
            exact restored.trans (dropWaiter restored.filed _)

theorem wait (filed : state.Filed host) (handle : TokenRequestHandle) :
    Confined host state (state.wait host handle).2 := by
  simp only [TokenState.wait]
  split
  · exact .refl filed
  · split
    all_goals first
      | exact dropWaiter filed _
      | exact .refl filed

/-- The part of `Cancel` behind the marked waiter. -/
theorem giveUp (filed : state.Filed host) (handle : TokenRequestHandle) :
    Confined host state
      (if state.isRetiring handle.key.object = true then
        (Status.ok, state.setWaiter host handle.requestId none)
      else if ¬(state.target host handle.key true).isOk = true then
        state.acknowledgeCancel host
          { key := handle.key, requestId := handle.requestId, requester := host } .cancelled
      else
        state.sendCancel host (state.block handle.key).tokenOwner
          { key := handle.key, requestId := handle.requestId, requester := host }).2 := by
  split
  · exact dropWaiter filed _
  · rename_i stays
    split
    · exact acknowledgeCancel filed (.inl rfl) _
    · rename_i reached
      have admits := admits_of_target (not_not.mp reached)
      exact sendCancel filed (admits.allocated (by simpa using stays)) _

theorem cancel (filed : state.Filed host) (handle : TokenRequestHandle) :
    Confined host state (state.cancel host handle).2 := by
  simp only [TokenState.cancel]
  split
  · exact .refl filed
  · rename_i waiter found
    have marked : Confined host state (state.setWaiter host handle.requestId
        (some { waiter with abandoned := true, state := .cancelling })) :=
      setWaiter filed fun replaced same => .inr ⟨waiter, found, by
        obtain rfl := Option.some.inj same
        rfl⟩
    have dropped := dropWaiter filed handle.requestId
    split
    · exact dropped.trans (release dropped.filed _ false)
    · exact dropped
    · exact dropped
    · exact marked.trans (giveUp marked.filed handle)
    · exact marked.trans (giveUp marked.filed handle)

theorem cancelAndWait (filed : state.Filed host) (handle : TokenRequestHandle) :
    Confined host state (state.cancelAndWait host handle).2 := by
  simp only [TokenState.cancelAndWait]
  split
  · exact .refl filed
  · rename_i waiter found
    have kept : Confined host state (state.setWaiter host handle.requestId
        (some { waiter with retainCompletion := true })) :=
      setWaiter filed fun replaced same => .inr ⟨waiter, found, by
        obtain rfl := Option.some.inj same
        rfl⟩
    exact kept.trans (cancel kept.filed handle)

theorem awaitCancel (filed : state.Filed host) (handle : TokenRequestHandle) :
    Confined host state (state.awaitCancel host handle).2 := by
  simp only [TokenState.awaitCancel]
  split
  · exact .refl filed
  · have dropped := dropWaiter filed handle.requestId
    split
    · exact dropped.trans (release dropped.filed _ false)
    · exact dropped
    · exact dropped
    · exact .refl filed
    · exact .refl filed

theorem publishApplication (filed : state.Filed host) (destination : cluster.Host) :
    Confined host state (TokenConfig.publishApplication state host destination) where
  descriptor := rfl
  service _ _ := rfl
  channel source apart := by simp [TokenConfig.publishApplication, apart]
  sends := by
    intro target
    by_cases same : target = destination
    · subst same
      refine ⟨[.application], by simp [TokenConfig.publishApplication], ?_, ?_⟩
      · simp [Packet.object]
      · simp [Packet.object]
    · exact ⟨[], by simp [TokenConfig.publishApplication, same], by simp, by simp⟩
  waiters _ _ := id
  rid _ rid := ⟨rid.unallocated, rid.waiters, rid.blocks, rid.outbound⟩
  idle _ _ := id
  filed := filed

theorem registerBlocks (object : GlobalPointer) {indices : List Nat} (filed : state.Filed host) :
    Confined host state (TokenState.registerBlocks host object indices state).2 := by
  induction indices generalizing state with
  | nil => exact .refl filed
  | cons index rest induction =>
      rw [TokenState.registerBlocks]
      dsimp only
      split
      · exact .refl filed
      · split
        · exact .refl filed
        · have registered := @setLocal cluster _ host ⟨object, index⟩ filed
            { state.localObject host ⟨object, index⟩ with available := true } (filed _)
            fun _ idle => idle
          exact registered.trans (induction registered.filed)

theorem registerAllocation (filed : state.Filed host) (object : GlobalPointer) :
    Confined host state (state.registerAllocation host object).2 := by
  simp only [TokenState.registerAllocation]
  split
  · exact .refl filed
  · exact registerBlocks object filed

/-! ## Closing -/

theorem dropWaiters (filed : state.Filed host) (object : GlobalPointer) :
    Confined host state (state.dropWaiters host object) := by
  have waiters : ∀ other, state.Unrequested host other →
      (state.dropWaiters host object).Unrequested host other := by
    intro other unrequested requestId waiter found
    rw [dropWaiters_waiter, if_pos rfl, Option.filter_eq_some_iff] at found
    exact unrequested requestId waiter found.1
  exact
    { descriptor := rfl
      service := fun other apart => by simp [TokenState.dropWaiters, apart]
      channel := fun _ _ => rfl
      sends := fun destination => ⟨[], by simp [TokenState.dropWaiters], by simp, by simp⟩
      waiters := fun other _ => waiters other
      rid := fun other rid => ⟨rid.unallocated, waiters other rid.waiters,
        by simpa [Idle] using rid.blocks, by simpa using rid.outbound⟩
      idle := fun key _ idle => by simpa [Idle] using idle
      filed := by simpa [Filed] using filed }

theorem withdraw (filed : state.Filed host) (object : GlobalPointer) :
    Confined host state (state.withdraw host object) := by
  have idles : ∀ key, state.Idle host key → (state.withdraw host object).Idle host key := by
    intro key idle
    simp only [Idle, withdraw_localObject]
    split
    · exact ⟨rfl, idle.2⟩
    · exact idle
  exact
    { descriptor := rfl
      service := fun other apart => by simp [TokenState.withdraw, apart]
      channel := fun _ _ => rfl
      sends := fun destination => ⟨[], by simp [TokenState.withdraw], by simp, by simp⟩
      waiters := fun other _ unrequested => by simpa [Unrequested] using unrequested
      rid := by
        intro other rid
        refine ⟨rid.unallocated, by simpa [Unrequested] using rid.waiters,
          fun index => idles _ (rid.blocks index), fun destination packet member => ?_⟩
        rw [withdraw_outbound, if_pos rfl] at member
        exact rid.outbound destination packet (List.mem_filter.mp member).1
      idle := fun key _ => idles key
      filed := by
        intro key request member
        rw [withdraw_localObject] at member
        split at member
        · cases member
        · exact filed key request member }

theorem forgetAllocation (filed : state.Filed host) (object : GlobalPointer) :
    Confined host state (state.forgetAllocation host object) := by
  have idles : ∀ key, state.Idle host key → (state.forgetAllocation host object).Idle host key := by
    intro key idle
    simp only [Idle, forgetAllocation_localObject]
    split
    · exact ⟨rfl, rfl⟩
    · exact idle
  exact
    { descriptor := rfl
      service := fun other apart => by simp [TokenState.forgetAllocation, apart]
      channel := fun _ _ => rfl
      sends := fun destination => ⟨[], by simp [TokenState.forgetAllocation], by simp, by simp⟩
      waiters := fun other _ unrequested => by simpa [Unrequested] using unrequested
      rid := fun other rid => ⟨rid.unallocated, by simpa [Unrequested] using rid.waiters,
        fun index => idles _ (rid.blocks index), by simpa using rid.outbound⟩
      idle := fun key _ => idles key
      filed := by
        intro key request member
        rw [forgetAllocation_localObject] at member
        split at member
        · cases member
        · exact filed key request member }

theorem releaseAll {leases : List TokenLease} (filed : state.Filed host) :
    Confined host state (TokenState.releaseAll host leases state).2 := by
  induction leases generalizing state with
  | nil => exact .refl filed
  | cons lease rest induction =>
      have released := release filed lease false
      rw [TokenState.releaseAll]
      split
      · exact released.trans (induction released.filed)
      · exact released

theorem closeObject (filed : state.Filed host) (object : GlobalPointer) (order : List Nat) :
    Confined host state (state.closeObject host object order).2 := by
  have dropped := dropWaiters filed object
  have released := dropped.trans
    (@releaseAll cluster _ host (state.unclaimed host object order) dropped.filed)
  simp only [TokenState.closeObject]
  split
  · exact released
  · split
    · exact released
    · exact released.trans (withdraw released.filed object)

end Confined

theorem closeObject_rid {state : TokenState cluster} {host : cluster.Host} {object : GlobalPointer}
    {order : List Nat} (filed : state.Filed host)
    (unallocated : (state.descriptor object).state ≠ .allocated)
    (beyond : ∀ index, (state.descriptor object).coherenceBlockCount ≤ index →
      state.Idle host ⟨object, index⟩)
    (closed : (state.closeObject host object order).1 = true) :
    (state.closeObject host object order).2.Rid host object := by
  have dropped := Confined.dropWaiters filed object
  have released := @Confined.releaseAll cluster _ host (state.unclaimed host object order)
    dropped.filed
  have whole := dropped.trans released
  simp only [closeObject] at closed ⊢
  generalize releaseAll host (state.unclaimed host object order) (state.dropWaiters host object) =
    result at closed released whole ⊢
  split at closed
  · rename_i failed
    rw [failed] at closed
    cases closed
  · rename_i succeeded
    split at closed
    · cases closed
    · rename_i found
      rw [if_neg succeeded, if_neg found]
      simp only [Bool.and_eq_true, Bool.not_eq_true', holdsBlock, List.any_eq_false, List.mem_range,
        whole.descriptor] at closed
      refine ⟨?_, ?_, fun index => ?_, fun destination packet member => ?_⟩
      · exact whole.descriptor ▸ unallocated
      · have gone : (state.dropWaiters host object).Unrequested host object := by
          intro requestId waiter registered
          rw [dropWaiters_waiter, if_pos rfl, Option.filter_eq_some_iff] at registered
          simpa using registered.2
        simpa [Unrequested] using released.waiters object unallocated gone
      · simp only [Idle, withdraw_localObject, true_and, whole.descriptor]
        by_cases inside : index < (state.descriptor object).coherenceBlockCount
        · rw [if_pos inside]
          exact ⟨rfl, by simpa using closed.1 index inside⟩
        · rw [if_neg inside]
          exact whole.idle ⟨object, index⟩ (fun usable => unallocated usable.1)
            (beyond index (Nat.not_lt.mp inside))
      · rw [withdraw_outbound, if_pos rfl] at member
        simpa using (List.mem_filter.mp member).2

end TokenState

namespace TokenConfig

/-- The host that performs an action. -/
def TokenOp.host : TokenOp cluster → cluster.Host
  | .request host _ _ => host
  | .wait host _ => host
  | .cancel host _ => host
  | .cancelAndWait host _ => host
  | .awaitCancel host _ => host
  | .beginWriteback host _ => host
  | .release host _ _ => host
  | .progress host => host
  | .publish source _ => source
  | .deliver _ destination => destination

/-- Every action but a delivery is confined to its host. -/
theorem step_confined {config next : TokenConfig cluster} {op : TokenOp cluster} {status : Status}
    (performed : config.step op = some (status, next))
    (undelivered : ∀ source destination, op ≠ .deliver source destination)
    (filed : config.state.Filed (TokenOp.host op)) :
    TokenState.Confined (TokenOp.host op) config.state next.state := by
  cases step_effect performed with
  | requested host key activate | requestFailed host key activate => exact .request filed activate
  | waited host requestId key | waitFailed host requestId key => exact .wait filed ⟨key, requestId⟩
  | cancelled host requestId key => exact .cancel filed ⟨key, requestId⟩
  | cancelledAndWaited host requestId key => exact .cancelAndWait filed ⟨key, requestId⟩
  | awaitedCancel host requestId key => exact .awaitCancel filed ⟨key, requestId⟩
  | beganWriteback host lease => exact .beginWriteback filed lease
  | released host requestId modified lease => exact .release filed lease modified
  | progressed host => exact .progressOutbound filed
  | published source destination => exact .publishApplication filed destination
  | delivered source destination => exact (undelivered source destination rfl).elim

end TokenConfig
end Cxloom.LoomMem
