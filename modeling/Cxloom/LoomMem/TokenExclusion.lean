import Cxloom.LoomMem.TokenServe

/-!
# Mutual exclusion of the write token

Every operation and every handler keeps the token invariant, so in every run each block's token
is in one phase: at most one lease for a block is outstanding, and a host that has the token in
use is the owner named by the sidecar.
-/

namespace Cxloom.LoomMem.TokenState

variable {cluster : Cluster} {state after : TokenState cluster}
  {leased : cluster.Host → Nat → Option TokenLease} {key : BlockKey}
  {phase : TokenPhase cluster}

/-! ## Steps that concern one block -/

theorem TokenAt.keepFlags (at_ : state.TokenAt leased key phase) (host : cluster.Host)
    {object : LocalObject cluster}
    (available : object.available = (state.localObject host key).available)
    (held : object.held = (state.localObject host key).held) :
    (state.setLocal host key object).TokenAt leased key phase := by
  refine at_.congr rfl ?_ ?_ (by simp) (by simp)
  · intro other
    by_cases same : other = host <;> simp [same, available]
  · intro other
    by_cases same : other = host <;> simp [same, held]

theorem handOff_grantsFor_of_ne {other : BlockKey} (apart : other ≠ key)
    (empty : state.SelfQueuesEmpty) {host : cluster.Host} {request : TokenRequest cluster}
    (requestKey : request.key = key) (remote : request.requester ≠ host)
    (source destination : cluster.Host) :
    (state.handOff host key request).2.grantsFor other source destination =
      state.grantsFor other source destination := by
  obtain ⟨-, -, -, fifos⟩ := handOff_spec key empty remote
  have foreign : (Packet.grant (state.handOffGrant key request)).grantFor other = none := by
    simp [Packet.grantFor, handOffGrant, requestKey, Ne.symm apart]
  have requests : ((state.localObject host key).pending.map Packet.request).filterMap
      (Packet.grantFor other) = [] := by
    simp [List.filterMap_eq_nil_iff, Packet.grantFor]
  simp only [grantsFor, fifos]
  split
  · rw [List.filterMap_append, List.filterMap_cons, foreign, requests, List.append_nil]
  · rfl

namespace TokenInv

theorem setLocal (inv : state.TokenInv leased) {host : cluster.Host}
    {object : LocalObject cluster} (keys : ∀ request ∈ object.pending, request.key = key)
    (moved : (state.setLocal host key object).TokenAt leased key phase) :
    (state.setLocal host key object).TokenInv leased where
  allLive := inv.allLive
  selfQueues := inv.selfQueues.setLocal host key object
  pendingKeys := by
    intro other otherKey request member
    by_cases same : other = host ∧ otherKey = key
    · obtain ⟨rfl, rfl⟩ := same
      exact keys request (by simpa using member)
    · exact inv.pendingKeys other otherKey request (by simpa [same] using member)
  phases := by
    intro other
    by_cases same : other = key
    · exact ⟨phase, same ▸ moved⟩
    · obtain ⟨phase, at_⟩ := inv.phases other
      exact ⟨phase, at_.congr rfl (by simp [same]) (by simp [same]) (by simp) (by simp)⟩

theorem setBlock (inv : state.TokenInv leased) {block : CoherenceBlockDescriptor cluster}
    (moved : (state.setBlock key block).TokenAt leased key phase) :
    (state.setBlock key block).TokenInv leased where
  allLive := inv.allLive
  selfQueues := inv.selfQueues.setBlock key block
  pendingKeys := inv.pendingKeys
  phases := by
    intro other
    by_cases same : other = key
    · exact ⟨phase, same ▸ moved⟩
    · obtain ⟨phase, at_⟩ := inv.phases other
      exact ⟨phase, at_.congr (by simp [same]) (by simp) (by simp) (by simp) (by simp)⟩

theorem setWaiter (inv : state.TokenInv leased) {host : cluster.Host} {requestId : Nat}
    {replacement : Option Waiter}
    (other : ∀ lease, grantedLease replacement = some lease → lease.key = key)
    (moved : (state.setWaiter host requestId replacement).TokenAt leased key phase) :
    (state.setWaiter host requestId replacement).TokenInv leased where
  allLive := inv.allLive
  selfQueues := inv.selfQueues.setWaiter host requestId replacement
  pendingKeys := by simpa [PendingKeys] using inv.pendingKeys
  phases := by
    intro otherKey
    by_cases same : otherKey = key
    · exact ⟨phase, same ▸ moved⟩
    · obtain ⟨phase, at_⟩ := inv.phases otherKey
      refine ⟨_, at_.dropWaiter host requestId replacement ?_⟩
      rw [Option.filter_eq_none_iff]
      intro lease granted
      simp [other lease granted, Ne.symm same]

/-- A waiter that is not granted afterwards holds nothing. -/
theorem clearWaiter (inv : state.TokenInv leased) (host : cluster.Host) (requestId : Nat)
    (replacement : Option Waiter) (empty : grantedLease replacement = none) :
    (state.setWaiter host requestId replacement).TokenInv leased where
  allLive := inv.allLive
  selfQueues := inv.selfQueues.setWaiter host requestId replacement
  pendingKeys := by simpa [PendingKeys] using inv.pendingKeys
  phases := by
    intro key
    obtain ⟨phase, at_⟩ := inv.phases key
    exact ⟨_, at_.dropWaiter host requestId replacement (by simp [empty])⟩

theorem keepWaiter (inv : state.TokenInv leased) (host : cluster.Host) (requestId : Nat)
    {replacement : Option Waiter}
    (same : grantedLease replacement = grantedLease (state.waiter host requestId)) :
    (state.setWaiter host requestId replacement).TokenInv leased where
  allLive := inv.allLive
  selfQueues := inv.selfQueues.setWaiter host requestId replacement
  pendingKeys := by simpa [PendingKeys] using inv.pendingKeys
  phases := by
    intro key
    obtain ⟨phase, at_⟩ := inv.phases key
    refine ⟨phase, at_.congr rfl (by simp) (by simp) ?_ (by simp)⟩
    intro holder
    rw [setWaiter_leaseFor]
    split
    · rename_i mine
      rw [mine, same]
      rfl
    · rfl

theorem issue (inv : state.TokenInv leased) (host : cluster.Host) (object : GlobalPointer) :
    (state.issue host object).TokenInv leased where
  allLive := inv.allLive
  selfQueues := inv.selfQueues.issue host object
  pendingKeys := by simpa [PendingKeys] using inv.pendingKeys
  phases := by
    intro key
    obtain ⟨phase, at_⟩ := inv.phases key
    have registered := at_.dropWaiter host (state.nextRequestId host)
      (some (freshWaiter object)) (by simp [grantedLease, freshWaiter])
    refine ⟨_, registered.congr rfl (by simp) (by simp) ?_ (by simp [grantsFor])⟩
    exact leaseFor_congr leased key (by simp)

theorem dropCaller (inv : state.TokenInv leased) (host : cluster.Host) (requestId : Nat) :
    state.TokenInv (updateEntry leased host requestId none) where
  allLive := inv.allLive
  selfQueues := inv.selfQueues
  pendingKeys := inv.pendingKeys
  phases := by
    intro key
    obtain ⟨phase, at_⟩ := inv.phases key
    exact ⟨_, at_.dropCaller host requestId none rfl⟩

/-- A packet without a grant keeps every phase. -/
theorem enqueueOutbound (inv : state.TokenInv leased) {host destination : cluster.Host}
    (packet : Packet cluster) (remote : destination ≠ host)
    (plain : ∀ key, packet.grantFor key = none) :
    (state.enqueueOutbound host destination packet).2.TokenInv leased where
  allLive := inv.allLive.congr (by simp)
  selfQueues := inv.selfQueues.enqueueOutbound packet remote
  pendingKeys := by simpa [PendingKeys] using inv.pendingKeys
  phases := by
    intro key
    obtain ⟨phase, at_⟩ := inv.phases key
    exact ⟨phase, at_.congr (by simp) (by simp) (by simp) (by simp) (by simp [plain])⟩

theorem progressOutbound (inv : state.TokenInv leased) (host : cluster.Host) :
    (state.progressOutbound host).2.TokenInv leased where
  allLive := inv.allLive.congr (by simp)
  selfQueues := inv.selfQueues.progressOutbound host
  pendingKeys := by simpa [PendingKeys] using inv.pendingKeys
  phases := by
    intro key
    obtain ⟨phase, at_⟩ := inv.phases key
    exact ⟨phase, at_.congr (by simp) (by simp) (by simp) (by simp) (by simp)⟩

theorem handOff (inv : state.TokenInv leased) (busy : state.TokenAt leased key .busy)
    {host : cluster.Host} (owner : host = (state.block key).tokenOwner)
    (even : (state.block key).writebackEpoch % 2 = 0) {request : TokenRequest cluster}
    (requestKey : request.key = key) (remote : request.requester ≠ host) :
    (state.handOff host key request).2.TokenInv leased := by
  obtain ⟨-, selfQueues, objects, -⟩ := handOff_spec key inv.selfQueues remote
  refine ⟨inv.allLive.congr (by simp), selfQueues, ?_, ?_⟩
  · intro other otherKey request member
    rw [objects] at member
    split at member
    · simp [LocalObject.fresh] at member
    · exact inv.pendingKeys other otherKey request member
  · intro other
    by_cases same : other = key
    · subst same
      exact ⟨_, busy.handOff inv.selfQueues owner even requestKey remote⟩
    · obtain ⟨phase, at_⟩ := inv.phases other
      exact ⟨phase, at_.congr (by simp [same]) (by simp [objects, same]) (by simp [objects, same])
        (leaseFor_congr leased other (by simp))
        (handOff_grantsFor_of_ne same inv.selfQueues requestKey remote)⟩

end TokenInv

/-! ## Serving the pending queue -/

/-- The host has the token of the block in use and nobody holds a lease for it. -/
structure BusyAt (state : TokenState cluster)
    (leased : cluster.Host → Nat → Option TokenLease) (host : cluster.Host) (key : BlockKey)
    (tokenEpoch : Nat) : Prop where
  inv : state.TokenInv leased
  busy : state.TokenAt leased key .busy
  owner : (state.block key).tokenOwner = host
  epoch : (state.block key).tokenEpoch = tokenEpoch

namespace BusyAt

variable {host : cluster.Host} {tokenEpoch : Nat}

theorem held (busy : state.BusyAt leased host key tokenEpoch) :
    (state.localObject host key).held = true :=
  (busy.busy.held host).mpr ⟨rfl, busy.owner.symm⟩

theorem available (busy : state.BusyAt leased host key tokenEpoch) :
    (state.localObject host key).available = true :=
  (busy.busy.available host).mpr ⟨rfl, busy.owner.symm⟩

/-- A local update of the pending queue keeps the token busy. -/
theorem setLocal (busy : state.BusyAt leased host key tokenEpoch) (object : LocalObject cluster)
    (available : object.available = true) (held : object.held = true)
    (keys : ∀ request ∈ object.pending, request.key = key) :
    (state.setLocal host key object).BusyAt leased host key tokenEpoch := by
  have moved : (state.setLocal host key object).TokenAt leased key .busy :=
    busy.busy.keepFlags host (available.trans busy.available.symm) (held.trans busy.held.symm)
  exact ⟨busy.inv.setLocal keys moved, moved, busy.owner, busy.epoch⟩

theorem presented (busy : state.BusyAt leased host key tokenEpoch) {lease : TokenLease}
    (leaseKey : lease.key = key) (epoch : lease.tokenEpoch = tokenEpoch) :
    state.Presented host key lease :=
  ⟨leaseKey, busy.owner, busy.epoch.trans epoch.symm, busy.held⟩

/-- A sidecar update by the user keeps the token busy. -/
theorem setBlock (busy : state.BusyAt leased host key tokenEpoch)
    (block : CoherenceBlockDescriptor cluster)
    (owner : block.tokenOwner = (state.block key).tokenOwner)
    (epoch : block.tokenEpoch = (state.block key).tokenEpoch) :
    (state.setBlock key block).BusyAt leased host key tokenEpoch := by
  have moved := busy.busy.write rfl owner epoch
  refine ⟨busy.inv.setBlock moved, moved, ?_, ?_⟩
  · simpa using owner.trans busy.owner
  · simpa using epoch.trans busy.epoch

theorem clearWaiter (busy : state.BusyAt leased host key tokenEpoch) (other : cluster.Host)
    (requestId : Nat) {replacement : Option Waiter} (empty : grantedLease replacement = none) :
    (state.setWaiter other requestId replacement).BusyAt leased host key tokenEpoch :=
  ⟨busy.inv.clearWaiter other requestId replacement empty,
    busy.busy.dropWaiter other requestId replacement (by simp [empty]), busy.owner, busy.epoch⟩

theorem activateIf (busy : state.BusyAt leased host key tokenEpoch) (activate : Bool) :
    (state.activateIf key activate).2.BusyAt leased host key tokenEpoch := by
  obtain ⟨writebackEpoch, changed⟩ := state.activateIf_eq_setBlock key activate
  rw [changed]
  exact busy.setBlock _ rfl rfl

theorem publishRelease (busy : state.BusyAt leased host key tokenEpoch) (modified : Bool) :
    (state.publishRelease host key modified).BusyAt leased host key tokenEpoch := by
  obtain ⟨block, changed, owner, epoch, -, -⟩ := state.publishRelease_eq_setBlock host key modified
  rw [changed]
  exact busy.setBlock block owner epoch

theorem opened (busy : state.BusyAt leased host key tokenEpoch) (request : TokenRequest cluster)
    {rest : List (TokenRequest cluster)} (keys : ∀ request ∈ rest, request.key = key) :
    (state.opened host key request rest).BusyAt leased host key tokenEpoch := by
  have popped := busy.setLocal { state.localObject host key with pending := rest }
    busy.available busy.held keys
  exact (popped.activateIf request.activateCoherenceEpoch).setLocal _ rfl rfl (by simpa using keys)

/-- The token comes to rest at its owner. -/
theorem rest (busy : state.BusyAt leased host key tokenEpoch)
    (even : (state.block key).writebackEpoch % 2 = 0) :
    (state.setLocal host key { state.localObject host key with held := false }).TokenInv leased :=
  busy.inv.setLocal (busy.inv.pendingKeys host key)
    (busy.busy.rest busy.owner.symm even (state.localObject host key).pending)

theorem grantTo (busy : state.BusyAt leased host key tokenEpoch) (requestId : Nat)
    {waiter : Waiter} (granted : waiter.state = .granted) (leaseKey : waiter.lease.key = key)
    (epoch : waiter.lease.tokenEpoch = tokenEpoch) :
    (state.setWaiter host requestId (some waiter)).TokenInv leased := by
  have moved := busy.busy.grantTo requestId granted busy.owner.symm leaseKey
    (epoch.trans busy.epoch.symm)
  refine busy.inv.setWaiter ?_ moved
  intro lease found
  obtain rfl : waiter.lease = lease := by simpa [grantedLease, granted] using found
  exact leaseKey

theorem leaseTo (busy : state.BusyAt leased host key tokenEpoch) (requestId : Nat)
    {lease : TokenLease} (leaseKey : lease.key = key) (epoch : lease.tokenEpoch = tokenEpoch) :
    state.TokenInv (updateEntry leased host requestId (some lease)) where
  allLive := busy.inv.allLive
  selfQueues := busy.inv.selfQueues
  pendingKeys := busy.inv.pendingKeys
  phases := by
    intro other
    by_cases same : other = key
    · subst same
      exact ⟨_, busy.busy.leaseTo busy.owner.symm leaseKey (epoch.trans busy.epoch.symm)⟩
    · obtain ⟨phase, at_⟩ := busy.inv.phases other
      exact ⟨_, at_.dropCaller host requestId _ (by simp [leaseKey, Ne.symm same])⟩

end BusyAt

theorem grantedLease_lateWaiter (waiter : Waiter) : grantedLease (lateWaiter waiter) = none := by
  cases retained : waiter.retainCompletion <;> simp [lateWaiter, retained, grantedLease]

/-- Serving keeps the token invariant; where it fails, the token stays busy at its owner. -/
theorem Served.tokenInv {host : cluster.Host} {pending : List (TokenRequest cluster)}
    {result : Status × TokenState cluster} (served : Served host key pending state result)
    {tokenEpoch : Nat} (busy : state.BusyAt leased host key tokenEpoch)
    (even : (state.block key).writebackEpoch % 2 = 0)
    (keys : ∀ request ∈ pending, request.key = key) :
    result.2.TokenInv leased ∧
      (result.1.isOk = false → result.2.BusyAt leased host key tokenEpoch) := by
  induction served with
  | rest state => exact ⟨busy.rest even, by simp⟩
  | orphan state next rest local_ missing =>
      have kept := busy.setLocal { state.localObject host key with pending := rest }
        busy.available busy.held
          (fun request member => keys request (List.mem_cons_of_mem _ member))
      exact ⟨kept.inv, fun _ => kept⟩
  | granted state next rest waiter local_ found kept =>
      have open_ := busy.opened next (fun request member =>
        keys request (List.mem_cons_of_mem _ member))
      refine ⟨open_.grantTo next.requestId rfl (keys next List.mem_cons_self) ?_, by simp⟩
      exact open_.epoch
  | late state next rest waiter result local_ found abandoned served induction =>
      have restKeys : ∀ request ∈ rest, request.key = key := fun request member =>
        keys request (List.mem_cons_of_mem _ member)
      have open_ := busy.opened next restKeys
      have dropped := open_.clearWaiter host next.requestId (grantedLease_lateWaiter waiter)
      exact induction (dropped.publishRelease false) (publishRelease_even _ _ _ _) restKeys
  | handedOff state next rest remote =>
      have popped := busy.setLocal { state.localObject host key with pending := rest }
        busy.available busy.held
          (fun request member => keys request (List.mem_cons_of_mem _ member))
      refine ⟨popped.inv.handOff popped.busy popped.owner.symm (by simpa using even)
        (keys next List.mem_cons_self) remote, ?_⟩
      simp [(handOff_spec key popped.inv.selfQueues remote).1]

/-- `Release` of a lease of a busy token keeps the invariant; a refused one changes no phase. -/
theorem BusyAt.release {host : cluster.Host} {tokenEpoch : Nat}
    (busy : state.BusyAt leased host key tokenEpoch)
    {lease : TokenLease} (leaseKey : lease.key = key) (epoch : lease.tokenEpoch = tokenEpoch)
    (modified : Bool) :
    (state.release host lease modified).2.TokenInv leased ∧
      ((state.release host lease modified).1.isOk = false →
        (state.release host lease modified).2.BusyAt leased host key tokenEpoch) := by
  obtain rfl := leaseKey
  cases accepted : (state.leaseStatus host lease).isOk with
  | false =>
      have refused : state.release host lease modified = (state.leaseStatus host lease, state) := by
        rw [TokenState.release, releasePending]
        simp [accepted]
      rw [refused]
      exact ⟨busy.inv, fun _ => busy⟩
  | true =>
      by_cases closed : modified = true ∧ (state.block lease.key).writebackEpoch % 2 = 0
      · have refused : state.release host lease modified =
            (.failedPrecondition "modified release requires an active writeback epoch", state) := by
          rw [TokenState.release, releasePending]
          simp [accepted, closed]
        rw [refused]
        exact ⟨busy.inv, fun _ => busy⟩
      · have live : state.Live lease.key := busy.inv.allLive.live_of_leaseStatus accepted
        have odd : modified = true → (state.block lease.key).writebackEpoch % 2 = 1 := by
          intro changed
          have notEven : (state.block lease.key).writebackEpoch % 2 ≠ 0 := fun even =>
            closed ⟨changed, even⟩
          omega
        have keys := busy.inv.pendingKeys host lease.key
        have served := releasePending_served (state.localObject host lease.key).pending live
          (busy.presented rfl epoch) odd keys
        exact served.tokenInv (busy.publishRelease modified)
          (state.publishRelease_even host lease.key modified) keys

/-! ## Handlers and operations -/

namespace TokenInv

variable (inv : state.TokenInv leased) (host : cluster.Host)

include inv

/-- A lease in the tables is for a busy token once its holder drops it. -/
theorem busy_of_waiter {requestId : Nat} {waiter : Waiter}
    (found : state.waiter host requestId = some waiter) (granted : waiter.state = .granted)
    (replacement : Option Waiter) (empty : grantedLease replacement = none) :
    (state.setWaiter host requestId replacement).BusyAt leased host waiter.lease.key
      waiter.lease.tokenEpoch := by
  obtain ⟨phase, at_⟩ := inv.phases waiter.lease.key
  have lease : state.leaseFor leased waiter.lease.key (.waiter host requestId) =
      some waiter.lease := by
    simp [leaseFor, found, grantedLease, granted]
  obtain rfl := at_.leased_of_lease lease
  obtain ⟨-, owner, epoch⟩ := at_.current
  have moved := at_.dropWaiter host requestId replacement (by simp [empty])
  rw [TokenPhase.without, if_pos rfl] at moved
  exact ⟨inv.clearWaiter host requestId replacement empty, moved, owner.symm, epoch.symm⟩

theorem busy_of_caller {requestId : Nat} {lease : TokenLease}
    (found : leased host requestId = some lease) :
    state.BusyAt (updateEntry leased host requestId none) host lease.key lease.tokenEpoch := by
  obtain ⟨phase, at_⟩ := inv.phases lease.key
  have held : state.leaseFor leased lease.key (.caller host requestId) = some lease := by
    simp [leaseFor, found]
  obtain rfl := at_.leased_of_lease held
  obtain ⟨-, owner, epoch⟩ := at_.current
  have moved := at_.dropCaller host requestId none rfl
  rw [TokenPhase.without, if_pos rfl] at moved
  exact ⟨inv.dropCaller host requestId, moved, owner.symm, epoch.symm⟩

theorem handleReject (message : TokenReject cluster) :
    (state.handleReject host message).2.TokenInv leased := by
  simp only [TokenState.handleReject]
  split
  · exact inv
  · split
    · exact inv
    · split
      · exact inv
      · refine inv.clearWaiter host message.requestId _ ?_
        split
        · rfl
        · simp only [grantedLease, Option.bind_some]
          split <;> simp_all

theorem handleCancelAck (message : TokenCancelAck cluster) :
    (state.handleCancelAck host message).2.TokenInv leased := by
  simp only [TokenState.handleCancelAck]
  split
  · exact inv
  · split
    · exact inv
    · split
      · exact inv
      · refine inv.clearWaiter host message.requestId _ ?_
        split <;> simp [grantedLease]

theorem reject (request : TokenRequest cluster) (reason : TokenCompletionReason) :
    (state.reject host request reason).2.TokenInv leased := by
  simp only [TokenState.reject]
  split
  · exact inv.handleReject host _
  · rename_i remote
    exact inv.enqueueOutbound _ remote (fun _ => rfl)

theorem acknowledgeCancel (message : TokenCancel cluster) (reason : TokenCompletionReason) :
    (state.acknowledgeCancel host message reason).2.TokenInv leased := by
  simp only [TokenState.acknowledgeCancel]
  split
  · exact inv.handleCancelAck host _
  · rename_i remote
    exact inv.enqueueOutbound _ remote (fun _ => rfl)

/-- Changing the pending queue of a block keeps every phase. -/
theorem setPending {pending : List (TokenRequest cluster)}
    (keys : ∀ request ∈ pending, request.key = key) :
    (state.setLocal host key { state.localObject host key with pending := pending }).TokenInv
      leased := by
  obtain ⟨phase, at_⟩ := inv.phases key
  exact inv.setLocal keys (at_.keepFlags host rfl rfl)

theorem handleCancel (message : TokenCancel cluster) :
    (state.handleCancel host message).2.TokenInv leased := by
  simp only [TokenState.handleCancel]
  split
  · exact inv
  · split
    · exact inv.acknowledgeCancel host message .cancelled
    · split
      · rename_i remote
        exact inv.enqueueOutbound _ remote (fun _ => rfl)
      · refine (inv.setPending host ?_).acknowledgeCancel host message _
        intro request member
        exact inv.pendingKeys host message.key request (List.mem_of_mem_eraseP member)

theorem sendCancel (destination : cluster.Host) (message : TokenCancel cluster) :
    (state.sendCancel host destination message).2.TokenInv leased := by
  simp only [TokenState.sendCancel]
  split
  · exact inv.handleCancel host message
  · rename_i remote
    exact inv.enqueueOutbound _ remote (fun _ => rfl)

theorem take (idle : state.TokenAt leased key .idle)
    (owner : host = (state.block key).tokenOwner) :
    (state.setLocal host key { state.localObject host key with held := true }).BusyAt leased host
      key (state.block key).tokenEpoch := by
  have moved := idle.take owner
  exact ⟨inv.setLocal (inv.pendingKeys host key) moved, moved, owner.symm, rfl⟩

theorem handleRequest (request : TokenRequest cluster) :
    (state.handleRequest host request).2.TokenInv leased := by
  simp only [TokenState.handleRequest]
  split
  · exact inv
  · split
    · exact inv.reject host request _
    · rename_i found
      split
      · exact inv.reject host request _
      · split
        · exact inv.reject host request _
        · split
          · rename_i remote
            exact inv.enqueueOutbound _ remote (fun _ => rfl)
          · rename_i owner
            have live := inv.allLive.live_of_target (by simpa using found)
            split
            · refine inv.setPending host ?_
              intro other member
              rcases List.mem_append.mp member with old | new
              · exact inv.pendingKeys host request.key other old
              · rw [List.mem_singleton.mp new]
            · rename_i free
              obtain ⟨phase, at_⟩ := inv.phases request.key
              obtain ⟨available, notHeld⟩ : (state.localObject host request.key).available = true ∧
                  ¬(state.localObject host request.key).held = true := by
                simpa [not_or] using free
              obtain ⟨rfl, named⟩ := at_.idle_of_available available notHeld
              have busy := inv.take host at_ named
              have served := grant_release_served (state.setLocal host request.key
                { state.localObject host request.key with held := true }) request
                (live.congr rfl) rfl (at_.even rfl) busy.owner
                  (busy.inv.pendingKeys host request.key)
              refine (served.tokenInv busy (at_.even rfl) ?_).1
              intro other member
              rcases List.mem_cons.mp member with same | old
              · rw [same]
              · exact busy.inv.pendingKeys host request.key other old

omit inv in
/-- Landing with an activation leaves the token busy at its new owner. -/
theorem land (inv : state.TokenInv leased) (lost : state.TokenAt leased key .lost)
    (owner : host = (state.block key).tokenOwner) (activate : Bool) (object : LocalObject cluster)
    (available : object.available = true) (held : object.held = true)
    (keys : ∀ request ∈ object.pending, request.key = key) :
    ((state.activateIf key activate).2.setLocal host key object).BusyAt leased host key
      (state.block key).tokenEpoch := by
  obtain ⟨writebackEpoch, changed⟩ := state.activateIf_eq_setBlock key activate
  have landed := lost.land owner object available held
  have busy : (state.setLocal host key object).BusyAt leased host key
      (state.block key).tokenEpoch :=
    ⟨inv.setLocal keys landed, landed, owner.symm, rfl⟩
  rw [changed]
  exact busy.setBlock { state.block key with writebackEpoch := writebackEpoch } rfl rfl

/-- Handling a grant whose packet was just popped. -/
theorem handleGrant (message : TokenGrant cluster)
    (lost : state.TokenAt leased message.key .lost) :
    (state.handleGrant host message).2.TokenInv leased := by
  simp only [TokenState.handleGrant]
  split
  · exact inv
  · split
    · exact inv.handleReject host _
    · split
      · exact inv
      · rename_i matching
        obtain ⟨owner, epoch, version⟩ : (state.block message.key).tokenOwner = host ∧
            (state.block message.key).tokenEpoch = message.tokenEpoch ∧
            (state.block message.key).version = message.version := by
          simpa [not_or] using matching
        split
        · exact inv
        · rename_i waiter found
          rw [state.activateIf_of_even message.key _ (lost.even rfl)]
          have busy := inv.land host lost owner.symm message.activateCoherenceEpoch
            { (state.activateIf message.key message.activateCoherenceEpoch).2.localObject
              host message.key with held := true, available := true } rfl rfl
            (by simpa using inv.pendingKeys host message.key)
          simp only [Status.isOk_ok, if_true, completeGrant]
          split
          · exact ((busy.clearWaiter host message.requestId
              (by split <;> simp [grantedLease])).release
              rfl epoch.symm false).1
          · exact busy.grantTo message.requestId rfl rfl epoch.symm

theorem handleMessage_of_plain (packet : Packet cluster)
    (plain : ∀ message, packet ≠ .grant message) :
    (state.handleMessage host packet).2.TokenInv leased := by
  cases packet with
  | grant message => exact (plain message rfl).elim
  | request message =>
      simp only [handleMessage, inv.allLive.not_retiring]
      exact inv.handleRequest host message
  | reject message =>
      simp only [handleMessage, inv.allLive.not_retiring]
      exact inv.handleReject host message
  | cancel message =>
      simp only [handleMessage, inv.allLive.not_retiring]
      exact inv.handleCancel host message
  | cancelAck message =>
      simp only [handleMessage, inv.allLive.not_retiring]
      exact inv.handleCancelAck host message
  | application => exact inv

/-- A popped packet leaves every token in some phase. -/
theorem pop {source destination : cluster.Host} {packet : Packet cluster}
    (popped : state.pop source destination = some (packet, after)) : after.TokenInv leased where
  allLive := inv.allLive.congr (pop_eq_some popped).1
  selfQueues := by simpa [SelfQueuesEmpty, pop_outbound popped] using inv.selfQueues
  pendingKeys := by simpa [PendingKeys, pop_localObject popped] using inv.pendingKeys
  phases := by
    intro key
    obtain ⟨phase, at_⟩ := inv.phases key
    cases carried : packet.grantFor key with
    | none => exact ⟨phase, at_.pop_other popped carried⟩
    | some message =>
        cases packet with
        | grant sent =>
            have mine : sent.key = key := by
              by_contra foreign
              simp [Packet.grantFor, foreign] at carried
            exact ⟨.lost, (at_.pop_grant popped mine).2.2⟩
        | request | reject | cancel | cancelAck | application =>
            simp [Packet.grantFor] at carried

theorem deliver {source destination : cluster.Host} {packet : Packet cluster}
    (popped : state.pop source destination = some (packet, after)) :
    (after.handleMessage destination packet).2.TokenInv leased := by
  have inv' := inv.pop popped
  cases packet with
  | grant message =>
      simp only [handleMessage, inv'.allLive.not_retiring]
      obtain ⟨phase, at_⟩ := inv.phases message.key
      exact inv'.handleGrant destination message (at_.pop_grant popped rfl).2.2
  | request | reject | cancel | cancelAck | application =>
      exact inv'.handleMessage_of_plain destination _ (by simp)

theorem request (key : BlockKey) (activate : Bool) :
    (state.request host key activate).2.TokenInv leased := by
  have issued := inv.issue host key.object
  simp only [TokenState.request]
  split
  · exact inv
  · split
    · rename_i remote
      have sent := issued.enqueueOutbound (.request
        { key := key
          requestId := (state.service host).nextRequestId
          observedVersion := (state.block key).version
          requester := host
          activateCoherenceEpoch := activate }) remote (fun _ => rfl)
      split
      · exact sent
      · exact sent.clearWaiter host _ none rfl
    · split
      · exact issued.clearWaiter host _ none rfl
      · rename_i owner allocated
        split
        · refine issued.setPending host ?_
          intro other member
          rcases List.mem_append.mp member with old | new
          · exact issued.pendingKeys host key other old
          · rw [List.mem_singleton.mp new]
        · rename_i free
          obtain ⟨phase, at_⟩ := issued.phases key
          obtain ⟨available, notHeld⟩ :
              ((state.issue host key.object).localObject host key).available = true ∧
                ¬((state.issue host key.object).localObject host key).held = true := by
            simpa [not_or] using free
          obtain ⟨rfl, named⟩ := at_.idle_of_available available notHeld
          have busy := (issued.take host at_ named).activateIf activate
          have opens := activateIf_of_even ((state.issue host key.object).setLocal host key
            { (state.issue host key.object).localObject host key with held := true }) key
            activate (at_.even rfl)
          simp only [opens, Status.isOk_ok, if_true]
          exact busy.grantTo _ rfl rfl busy.epoch

theorem beginWriteback (lease : TokenLease) :
    (state.beginWriteback host lease).2.TokenInv leased := by
  simp only [TokenState.beginWriteback]
  split
  · rename_i accepted
    simp only [activateWriter]
    split
    · obtain ⟨phase, at_⟩ := inv.phases lease.key
      have held := held_of_leaseStatus accepted
      exact inv.setBlock (at_.write ((at_.held host).mp held).1 rfl rfl)
    · exact inv
  · exact inv

theorem cancel (handle : TokenRequestHandle) :
    (state.cancel host handle).2.TokenInv leased := by
  simp only [TokenState.cancel]
  split
  · exact inv
  · rename_i waiter found
    cases phase : waiter.state with
    | granted =>
        exact ((inv.busy_of_waiter host found phase none rfl).release rfl rfl false).1
    | rejected | cancelled => exact inv.clearWaiter host handle.requestId none rfl
    | active | cancelling =>
        have marked := inv.clearWaiter host handle.requestId
          (some { waiter with abandoned := true, state := .cancelling })
          (by simp [grantedLease])
        dsimp only
        split
        · exact marked.clearWaiter host handle.requestId none rfl
        · split
          · exact marked.acknowledgeCancel host _ _
          · exact marked.sendCancel host _ _

theorem cancelAndWait (handle : TokenRequestHandle) :
    (state.cancelAndWait host handle).2.TokenInv leased := by
  simp only [TokenState.cancelAndWait]
  split
  · exact inv
  · rename_i waiter found
    refine (inv.keepWaiter host handle.requestId ?_).cancel host handle
    simp [found, grantedLease]

theorem awaitCancel (handle : TokenRequestHandle) :
    (state.awaitCancel host handle).2.TokenInv leased := by
  simp only [TokenState.awaitCancel]
  split
  · exact inv
  · rename_i waiter found
    cases phase : waiter.state with
    | granted =>
        exact ((inv.busy_of_waiter host found phase none rfl).release rfl rfl false).1
    | rejected | cancelled => exact inv.clearWaiter host handle.requestId none rfl
    | active | cancelling => exact inv

end TokenInv

end Cxloom.LoomMem.TokenState

namespace Cxloom.LoomMem.TokenConfig

variable {cluster : Cluster}

/-! ## Runs -/

theorem updateEntry_restore {α : Type} {table : cluster.Host → Nat → Option α}
    {host : cluster.Host} {requestId : Nat} {entry : α}
    (found : table host requestId = some entry) :
    updateEntry (updateEntry table host requestId none) host requestId (some entry) = table := by
  funext other otherId
  by_cases same : other = host ∧ otherId = requestId
  · simp [same, found]
  · simp [same]

/-- An application packet enters one channel, before the deferred packets. -/
theorem publishApplication_fifo (state : TokenState cluster)
    (source destination from_ to_ : cluster.Host) :
    (publishApplication state source destination).fifo from_ to_ = state.fifo from_ to_ ∨
      ∃ before behind, state.fifo from_ to_ = before ++ behind ∧
        (publishApplication state source destination).fifo from_ to_ =
          before ++ .application :: behind := by
  by_cases same : from_ = source ∧ to_ = destination
  · obtain ⟨rfl, rfl⟩ := same
    exact .inr ⟨_, _, rfl, by simp [publishApplication, TokenState.fifo]⟩
  · left
    by_cases sameSource : from_ = source
    · subst sameSource
      have apart : to_ ≠ destination := fun target => same ⟨rfl, target⟩
      simp [publishApplication, TokenState.fifo, apart]
    · simp [publishApplication, TokenState.fifo, sameSource]

/-- An application packet carries no grant. -/
theorem publishApplication_grantsFor (state : TokenState cluster)
    (source destination : cluster.Host) (key : BlockKey) (from_ to_ : cluster.Host) :
    (publishApplication state source destination).grantsFor key from_ to_ =
      state.grantsFor key from_ to_ := by
  rcases publishApplication_fifo state source destination from_ to_ with
    same | ⟨before, behind, old, new⟩
  · simp [TokenState.grantsFor, same]
  · simp [TokenState.grantsFor, old, new, List.filterMap_cons, Packet.grantFor]

theorem publishApplication_inv {state : TokenState cluster}
    {leased : cluster.Host → Nat → Option TokenLease} (inv : state.TokenInv leased)
    (source destination : cluster.Host) :
    (publishApplication state source destination).TokenInv leased where
  allLive := inv.allLive
  selfQueues := inv.selfQueues
  pendingKeys := inv.pendingKeys
  phases := by
    intro key
    obtain ⟨phase, at_⟩ := inv.phases key
    refine ⟨phase, at_.congr rfl (fun _ => rfl) (fun _ => rfl)
      (TokenState.leaseFor_congr leased key fun _ _ => rfl) ?_⟩
    exact publishApplication_grantsFor state source destination key

/-- A lease of the table can be released, kept or lost with the invariant. -/
theorem release_inv {config : TokenConfig cluster} (inv : config.state.TokenInv config.leased)
    {host : cluster.Host} {requestId : Nat} {lease : TokenLease}
    (found : config.leased host requestId = some lease) (modified : Bool) :
    (config.state.release host lease modified).2.TokenInv
      (if (config.state.release host lease modified).1.isOk then
        updateEntry config.leased host requestId none else config.leased) := by
  have busy := inv.busy_of_caller host found
  obtain ⟨released, kept⟩ := busy.release rfl rfl modified
  split
  · exact released
  · rename_i refused
    have busy' := kept (by simpa using refused)
    rw [← updateEntry_restore found]
    exact busy'.leaseTo requestId rfl rfl

/-- A finished wait moves the lease from the waiter to its caller. -/
theorem wait_inv {config : TokenConfig cluster} (inv : config.state.TokenInv config.leased)
    {host : cluster.Host} {handle : TokenRequestHandle} {lease : TokenLease}
    (granted : (config.state.wait host handle).1 = .ok lease) :
    (config.state.wait host handle).2.TokenInv
      (updateEntry config.leased host handle.requestId (some lease)) := by
  obtain ⟨waiter, found, finished, rfl, after⟩ := TokenState.wait_ok granted
  rw [after]
  exact (inv.busy_of_waiter host found finished none rfl).leaseTo handle.requestId rfl rfl

theorem waitFailed_inv {config : TokenConfig cluster} (inv : config.state.TokenInv config.leased)
    {host : cluster.Host} {handle : TokenRequestHandle} {status : Status}
    (failed : (config.state.wait host handle).1 = .error status) :
    (config.state.wait host handle).2.TokenInv config.leased := by
  simp only [TokenState.wait] at failed ⊢
  split
  · exact inv
  · rename_i waiter found
    cases phase : waiter.state with
    | granted => simp [found, phase] at failed
    | rejected | cancelled => exact inv.clearWaiter host handle.requestId none rfl
    | active | cancelling => exact inv

section Initial

variable (cluster : Cluster) (allocation : GlobalPointer → Option (cluster.Host × Nat))

/-- The token of an allocated block starts idle at the allocating host; a block that does not
exist has no token. -/
theorem initial_phase (key : BlockKey) :
    ∃ phase : TokenPhase cluster, (phase = .idle ∨ phase = .lost) ∧
      ((initial cluster allocation).state.Live key → phase = .idle) ∧
      (initial cluster allocation).state.TokenAt (initial cluster allocation).leased key phase := by
  have build : ∀ phase : TokenPhase cluster, phase = .idle ∨ phase = .lost →
      (∀ host, ((initial cluster allocation).state.localObject host key).available = true ↔
        phase.landed = true ∧ host = ((initial cluster allocation).state.block key).tokenOwner) →
      (initial cluster allocation).state.TokenAt (initial cluster allocation).leased key phase := by
    rintro phase (rfl | rfl) available
    all_goals exact
      { available := available
        held := fun _ => by simp [initial, TokenState.localObject, TokenPhase.inUse]
        leases := fun holder => by
          cases holder <;>
            simp [initial, TokenState.leaseFor, TokenState.waiter, TokenState.grantedLease,
              TokenPhase.leaseOf]
        grants := fun _ _ => by
          simp [initial, TokenState.grantsFor, TokenState.fifo, TokenPhase.grantsOn]
        current := trivial
        even := fun _ => rfl }
  cases allocated : allocation key.object with
  | none =>
      refine ⟨.lost, .inr rfl, fun live => ?_, build .lost (.inr rfl) fun host => ?_⟩
      · have inRange := live.inRange
        simp [initial, allocated] at inRange
      · simp [initial, TokenState.localObject, allocated, TokenPhase.landed]
  | some owned =>
      by_cases inRange : key.blockIndex < owned.2
      · refine ⟨.idle, .inl rfl, fun _ => rfl, build .idle (.inl rfl) fun host => ?_⟩
        simp [initial, TokenState.localObject, allocated, TokenPhase.landed, inRange,
          @eq_comm _ host]
      · refine ⟨.lost, .inr rfl, fun live => ?_, build .lost (.inr rfl) fun host => ?_⟩
        · exact (inRange (by simpa [initial, allocated] using live.inRange)).elim
        · simp [initial, TokenState.localObject, allocated, TokenPhase.landed, inRange]

theorem initial_inv :
    (initial cluster allocation).state.TokenInv (initial cluster allocation).leased where
  allLive := by
    intro object
    refine ⟨?_, rfl⟩
    simp only [initial]
    split <;> simp
  selfQueues := fun _ => rfl
  pendingKeys := by
    intro host key request member
    simp [initial, TokenState.localObject] at member
  phases := by
    intro key
    obtain ⟨phase, -, -, at_⟩ := initial_phase cluster allocation key
    exact ⟨phase, at_⟩

end Initial

/-- Every action keeps the token invariant. -/
theorem step_inv {config next : TokenConfig cluster} {op : TokenOp cluster} {status : Status}
    (inv : config.state.TokenInv config.leased) (performed : config.step op = some (status, next)) :
    next.state.TokenInv next.leased := by
  cases step_effect performed with
  | requested host key activate handle
  | requestFailed host key activate status => exact inv.request host key activate
  | waited host requestId key lease issued granted => exact wait_inv inv granted
  | waitFailed host requestId key status issued failed => exact waitFailed_inv inv failed
  | cancelled host requestId key => exact inv.cancel host ⟨key, requestId⟩
  | cancelledAndWaited host requestId key => exact inv.cancelAndWait host ⟨key, requestId⟩
  | awaitedCancel host requestId key => exact inv.awaitCancel host ⟨key, requestId⟩
  | beganWriteback host lease => exact inv.beginWriteback host lease
  | released host requestId modified lease found => exact release_inv inv found modified
  | progressed host => exact inv.progressOutbound host
  | published source destination => exact publishApplication_inv inv source destination
  | delivered source destination packet after popped => exact inv.deliver popped

theorem reaches_inv {allocation : GlobalPointer → Option (cluster.Host × Nat)}
    {config : TokenConfig cluster} (execution : (initial cluster allocation).Reaches config) :
    config.state.TokenInv config.leased :=
  execution.preserves (fun config => config.state.TokenInv config.leased)
    (initial_inv cluster allocation) (fun _ _ _ _ inv _ performed => step_inv inv performed)

/-- In every run a block has at most one outstanding lease, at most one host uses its token, and
that host is the owner named by the sidecar. -/
theorem token_mutual_exclusion {allocation : GlobalPointer → Option (cluster.Host × Nat)}
    {config : TokenConfig cluster} (execution : (initial cluster allocation).Reaches config)
    (key : BlockKey) :
    (∀ first second, (config.state.leaseFor config.leased key first).isSome →
      (config.state.leaseFor config.leased key second).isSome → first = second) ∧
    (∀ first second, (config.state.localObject first key).held = true →
      (config.state.localObject second key).held = true → first = second) ∧
    ∀ host, (config.state.localObject host key).held = true →
      host = (config.state.block key).tokenOwner := by
  obtain ⟨phase, at_⟩ := (reaches_inv execution).phases key
  have owner : ∀ host, (config.state.localObject host key).held = true →
      host = (config.state.block key).tokenOwner := fun host held => ((at_.held host).mp held).2
  refine ⟨?_, fun first second one two => (owner first one).trans (owner second two).symm, owner⟩
  intro first second one two
  obtain ⟨firstLease, firstFound⟩ := Option.isSome_iff_exists.mp one
  obtain ⟨secondLease, secondFound⟩ := Option.isSome_iff_exists.mp two
  have same := (at_.leased_of_lease firstFound).symm.trans (at_.leased_of_lease secondFound)
  injection same

/-- The second host asks for the token, receives it and collects the lease. -/
def handOffOps : List (TokenOp threeHosts) :=
  [.request host1 onlyBlock true, .deliver host1 host0, .deliver host0 host1, .wait host1 1]

theorem token_mutual_exclusion_handOff :
    ∃ config, threeHostsInitial.runOps handOffOps = some config ∧
      (config.state.localObject host1 onlyBlock).held = true ∧
      (config.state.block onlyBlock).tokenOwner = host1 ∧
      ∀ host, (config.state.localObject host onlyBlock).held = true → host = host1 := by
  have holds : (threeHostsInitial.runOps handOffOps).any (fun config =>
      (config.state.localObject host1 onlyBlock).held) = true := by
    decide +kernel
  obtain ⟨config, execution, held⟩ := (Option.any_eq_true _ _).mp holds
  obtain ⟨-, unique, owner⟩ :=
    token_mutual_exclusion (reaches_of_runOps execution) onlyBlock
  exact ⟨config, execution, held, (owner host1 held).symm, fun host other =>
    unique host host1 other held⟩

end Cxloom.LoomMem.TokenConfig
