import Cxloom.LoomMem.TokenExclusion

/-!
# What the services do to the sidecars

Only a modified release counts a version, and the sidecar of a block stays as it is while a caller
holds a lease for the block.  Requests, grants and leases name the block that was asked for, in
every run and whatever is cancelled.
-/

namespace Cxloom.LoomMem.TokenState

variable {cluster : Cluster}

/-- Requests, grants and leases name the block under which their identifier was issued. -/
structure Keyed (state : TokenState cluster)
    (issued : cluster.Host → Nat → Option BlockKey) : Prop where
  /-- Identifiers start at one. -/
  positive : ∀ host, 0 < state.nextRequestId host
  drawn : ∀ host requestId key, issued host requestId = some key →
    state.Live key ∧ requestId < state.nextRequestId host
  requests : ∀ source destination request,
    Packet.request request ∈ state.fifo source destination →
      issued request.requester request.requestId = some request.key
  grants : ∀ source destination grant, Packet.grant grant ∈ state.fifo source destination →
    issued grant.newOwner grant.requestId = some grant.key
  pending : ∀ host key request, request ∈ (state.localObject host key).pending →
    issued request.requester request.requestId = some request.key
  granted : ∀ host requestId lease, grantedLease (state.waiter host requestId) = some lease →
    issued host requestId = some lease.key

/-- A change that counts no version, keeps the sidecar of every block leased to a caller and keeps
the names of requests, grants and leases. -/
structure Calm (issued : cluster.Host → Nat → Option BlockKey)
    (leased : cluster.Host → Nat → Option TokenLease) (before after : TokenState cluster) :
    Prop where
  descriptor : after.descriptor = before.descriptor
  /-- No identifier is drawn. -/
  nextRequestId : ∀ host, after.nextRequestId host = before.nextRequestId host
  version : ∀ key, (after.block key).version = (before.block key).version
  /-- Leased blocks keep their sidecar. -/
  pinned : ∀ host requestId lease, leased host requestId = some lease →
    after.block lease.key = before.block lease.key
  /-- Names stay right. -/
  keyed : before.Keyed issued → after.Keyed issued

/-- Sidecars carry no names. -/
theorem Keyed.setBlock {state : TokenState cluster}
    {issued : cluster.Host → Nat → Option BlockKey} (names : state.Keyed issued) (key : BlockKey)
    (block : CoherenceBlockDescriptor cluster) : (state.setBlock key block).Keyed issued where
  positive := names.positive
  drawn host requestId other found :=
    ⟨(names.drawn host requestId other found).1.congr rfl,
      (names.drawn host requestId other found).2⟩
  requests := names.requests
  grants := names.grants
  pending := names.pending
  granted := names.granted

/-- No caller holds a lease for the block. -/
def Unleased (leased : cluster.Host → Nat → Option TokenLease) (key : BlockKey) : Prop :=
  ∀ host requestId lease, leased host requestId = some lease → lease.key ≠ key

namespace Calm

variable {issued : cluster.Host → Nat → Option BlockKey}
  {leased : cluster.Host → Nat → Option TokenLease} {state before middle after : TokenState cluster}
  {key : BlockKey}

theorem refl (state : TokenState cluster) : Calm issued leased state state :=
  ⟨rfl, fun _ => rfl, fun _ => rfl, fun _ _ _ _ => rfl, id⟩

theorem trans (first : Calm issued leased before middle)
    (second : Calm issued leased middle after) : Calm issued leased before after where
  descriptor := second.descriptor.trans first.descriptor
  nextRequestId host := (second.nextRequestId host).trans (first.nextRequestId host)
  version key := (second.version key).trans (first.version key)
  pinned host requestId lease found :=
    (second.pinned host requestId lease found).trans (first.pinned host requestId lease found)
  keyed names := second.keyed (first.keyed names)

theorem setWaiter (host : cluster.Host) (requestId : Nat) {replacement : Option Waiter}
    (empty : grantedLease replacement = none) :
    Calm issued leased state (state.setWaiter host requestId replacement) where
  descriptor := rfl
  nextRequestId other := by simp
  version other := rfl
  pinned _ _ _ _ := rfl
  keyed names :=
    { positive := by simpa using names.positive
      drawn := fun other otherId otherKey found =>
        ⟨(names.drawn other otherId otherKey found).1.congr (by simp),
          by simpa using (names.drawn other otherId otherKey found).2⟩
      requests := by simpa using names.requests
      grants := by simpa using names.grants
      pending := by simpa using names.pending
      granted := by
        intro other otherId lease found
        rw [setWaiter_waiter] at found
        split at found
        · simp [empty] at found
        · exact names.granted other otherId lease found }

theorem grantWaiter (host : cluster.Host) (requestId : Nat) {waiter : Waiter}
    (named : issued host requestId = some waiter.lease.key) :
    Calm issued leased state (state.setWaiter host requestId (some waiter)) where
  descriptor := rfl
  nextRequestId other := by simp
  version other := rfl
  pinned _ _ _ _ := rfl
  keyed names :=
    { positive := by simpa using names.positive
      drawn := fun other otherId otherKey found =>
        ⟨(names.drawn other otherId otherKey found).1.congr (by simp),
          by simpa using (names.drawn other otherId otherKey found).2⟩
      requests := by simpa using names.requests
      grants := by simpa using names.grants
      pending := by simpa using names.pending
      granted := by
        intro other otherId lease found
        rw [setWaiter_waiter] at found
        split at found
        · rename_i same
          obtain ⟨rfl, rfl⟩ := same
          obtain ⟨-, rfl⟩ : waiter.state = .granted ∧ waiter.lease = lease := by
            simpa [grantedLease] using found
          exact named
        · exact names.granted other otherId lease found }

theorem setLocal (host : cluster.Host) {object : LocalObject cluster}
    (named : state.Keyed issued → ∀ request ∈ object.pending,
      issued request.requester request.requestId = some request.key) :
    Calm issued leased state (state.setLocal host key object) where
  descriptor := rfl
  nextRequestId other := by simp
  version other := rfl
  pinned _ _ _ _ := rfl
  keyed names :=
    { positive := by simpa using names.positive
      drawn := fun other otherId otherKey found =>
        ⟨(names.drawn other otherId otherKey found).1.congr (by simp),
          by simpa using (names.drawn other otherId otherKey found).2⟩
      requests := by simpa using names.requests
      grants := by simpa using names.grants
      pending := by
        intro other otherKey request member
        rw [setLocal_localObject] at member
        split at member
        · exact named names request member
        · exact names.pending other otherKey request member
      granted := by simpa using names.granted }

/-- A sidecar update of a block that no caller holds. -/
theorem setBlock {block : CoherenceBlockDescriptor cluster} (free : Unleased leased key)
    (version : block.version = (state.block key).version) :
    Calm issued leased state (state.setBlock key block) where
  descriptor := rfl
  nextRequestId other := rfl
  version other := by
    rw [setBlock_block]
    split
    · rename_i same
      rw [same, version]
    · rfl
  pinned host requestId lease found := by
    rw [setBlock_block, if_neg (free host requestId lease found)]
  keyed names := names.setBlock key block

theorem activateIf (free : Unleased leased key) (activate : Bool) :
    Calm issued leased state (state.activateIf key activate).2 := by
  obtain ⟨writebackEpoch, changed⟩ := state.activateIf_eq_setBlock key activate
  rw [changed]
  exact setBlock free rfl

/-- An unmodified publication. -/
theorem publishRelease (host : cluster.Host) (free : Unleased leased key) :
    Calm issued leased state (state.publishRelease host key false) := by
  refine setBlock free ?_
  simp only [Bool.false_eq_true, if_false]
  split <;> rfl

/-- A packet that carries no name, or a right one. -/
theorem enqueueOutbound (host destination : cluster.Host) {packet : Packet cluster}
    (request : ∀ request, packet = .request request →
      issued request.requester request.requestId = some request.key)
    (grant : ∀ grant, packet = .grant grant →
      issued grant.newOwner grant.requestId = some grant.key) :
    Calm issued leased state (state.enqueueOutbound host destination packet).2 where
  descriptor := by simp
  nextRequestId other := by simp
  version other := by simp
  pinned _ _ _ _ := by simp
  keyed names :=
    { positive := by simpa using names.positive
      drawn := fun other otherId otherKey found =>
        ⟨(names.drawn other otherId otherKey found).1.congr (by simp),
          by simpa using (names.drawn other otherId otherKey found).2⟩
      requests := by
        intro source target message member
        rw [enqueueOutbound_fifo] at member
        split at member
        · rcases List.mem_append.mp member with old | new
          · exact names.requests source target message old
          · exact request message (List.mem_singleton.mp new).symm
        · exact names.requests source target message member
      grants := by
        intro source target message member
        rw [enqueueOutbound_fifo] at member
        split at member
        · rcases List.mem_append.mp member with old | new
          · exact names.grants source target message old
          · exact grant message (List.mem_singleton.mp new).symm
        · exact names.grants source target message member
      pending := by simpa using names.pending
      granted := by simpa using names.granted }

theorem progressOutbound (host : cluster.Host) :
    Calm issued leased state (state.progressOutbound host).2 where
  descriptor := rfl
  nextRequestId other := by simp
  version other := rfl
  pinned _ _ _ _ := rfl
  keyed names :=
    { positive := by simpa using names.positive
      drawn := fun other otherId otherKey found =>
        ⟨(names.drawn other otherId otherKey found).1.congr (by simp),
          by simpa using (names.drawn other otherId otherKey found).2⟩
      requests := by simpa using names.requests
      grants := by simpa using names.grants
      pending := by simpa using names.pending
      granted := by simpa using names.granted }

/-- A handoff of a block that no caller holds, for a request that names it. -/
theorem handOff {host : cluster.Host} {request : TokenRequest cluster}
    (empty : state.SelfQueuesEmpty) (remote : request.requester ≠ host)
    (free : Unleased leased key)
    (named : issued request.requester request.requestId = some request.key) :
    Calm issued leased state (state.handOff host key request).2 := by
  obtain ⟨-, -, objects, fifos⟩ := handOff_spec key empty remote
  refine ⟨by simp, by simp, fun other => ?_, fun other requestId lease found => ?_,
    fun names => ?_⟩
  · rw [handOff_block]
    split
    · rename_i same
      rw [same]
    · rfl
  · rw [handOff_block, if_neg (free other requestId lease found)]
  · refine ⟨by simpa using names.positive, fun other otherId otherKey found => ?_, ?_, ?_, ?_,
      by simpa using names.granted⟩
    · obtain ⟨live, below⟩ := names.drawn other otherId otherKey found
      exact ⟨live.congr (by simp), by simpa using below⟩
    · intro source target message member
      rw [fifos] at member
      split at member
      · simp only [List.mem_append, List.mem_cons, List.mem_map, reduceCtorEq, false_or] at member
        rcases member with old | ⟨other, queued, same⟩
        · exact names.requests source target message old
        · obtain rfl := Packet.request.inj same
          exact names.pending host key other queued
      · exact names.requests source target message member
    · intro source target message member
      rw [fifos] at member
      split at member
      · simp only [List.mem_append, List.mem_cons, List.mem_map, reduceCtorEq, and_false,
          exists_false, or_false] at member
        rcases member with old | same
        · exact names.grants source target message old
        · obtain rfl := Packet.grant.inj same
          exact named
      · exact names.grants source target message member
    · intro other otherKey message member
      rw [objects] at member
      split at member
      · simp [LocalObject.fresh] at member
      · exact names.pending other otherKey message member


end Calm

variable {state after : TokenState cluster} {issued : cluster.Host → Nat → Option BlockKey}
  {leased : cluster.Host → Nat → Option TokenLease} {key : BlockKey} {host : cluster.Host}
  {tokenEpoch : Nat}

/-! ## Grants and releases -/

theorem TokenAt.unleased {phase : TokenPhase cluster} (at_ : state.TokenAt leased key phase)
    (free : ∀ host requestId, phase.leaseOf (.caller host requestId) = none) :
    Unleased leased key := by
  intro host requestId lease found same
  have leases := at_.leases (.caller host requestId)
  rw [free] at leases
  simp [leaseFor, found, same] at leases

theorem TokenInv.caller_unique (inv : state.TokenInv leased) {first second : cluster.Host}
    {firstId secondId : Nat} {firstLease secondLease : TokenLease}
    (one : leased first firstId = some firstLease) (two : leased second secondId = some secondLease)
    (same : firstLease.key = secondLease.key) : first = second ∧ firstId = secondId := by
  obtain ⟨phase, at_⟩ := inv.phases secondLease.key
  have firstFound : state.leaseFor leased secondLease.key (.caller first firstId) =
      some firstLease := by
    simp [leaseFor, one, same]
  have secondFound : state.leaseFor leased secondLease.key (.caller second secondId) =
      some secondLease := by
    simp [leaseFor, two]
  have phases := (at_.leased_of_lease firstFound).symm.trans (at_.leased_of_lease secondFound)
  injection phases with holders
  injection holders with hosts ids
  exact ⟨hosts, ids⟩

theorem BusyAt.unleased (busy : state.BusyAt leased host key tokenEpoch) : Unleased leased key :=
  busy.busy.unleased fun _ _ => rfl

/-- Opening a block that no caller holds is calm. -/
theorem opened_calm (state : TokenState cluster) (host : cluster.Host) (free : Unleased leased key)
    (next : TokenRequest cluster) {rest : List (TokenRequest cluster)}
    (named : ∀ request ∈ rest, issued request.requester request.requestId = some request.key) :
    Calm issued leased state (state.opened host key next rest) := by
  have popped : Calm issued leased state
      (state.setLocal host key { state.localObject host key with pending := rest }) :=
    .setLocal host fun _ => named
  have activated := popped.trans (Calm.activateIf free next.activateCoherenceEpoch)
  exact activated.trans (.setLocal host fun names => names.pending host key)

theorem Served.calm {pending : List (TokenRequest cluster)} {result : Status × TokenState cluster}
    (served : Served host key pending state result)
    (busy : state.BusyAt leased host key tokenEpoch)
    (keys : ∀ request ∈ pending, request.key = key)
    (named : ∀ request ∈ pending, issued request.requester request.requestId = some request.key) :
    Calm issued leased state result.2 := by
  have free := busy.unleased
  induction served with
  | rest state =>
      exact .setLocal host fun names => names.pending host key
  | orphan state next rest =>
      exact .setLocal host fun _ request member =>
        named request (List.mem_cons_of_mem _ member)
  | granted state next rest waiter local_ =>
      have restNamed : ∀ request ∈ rest,
          issued request.requester request.requestId = some request.key :=
        fun request member => named request (List.mem_cons_of_mem _ member)
      have head := named next List.mem_cons_self
      rw [local_] at head
      exact (opened_calm state host free next restNamed).trans
        (.grantWaiter host next.requestId head)
  | late state next rest waiter result local_ found abandoned served induction =>
      have restKeys : ∀ request ∈ rest, request.key = key :=
        fun request member => keys request (List.mem_cons_of_mem _ member)
      have restNamed : ∀ request ∈ rest,
          issued request.requester request.requestId = some request.key :=
        fun request member => named request (List.mem_cons_of_mem _ member)
      have dropped := (busy.opened next restKeys).clearWaiter host next.requestId
        (grantedLease_lateWaiter waiter)
      have opens := (opened_calm state host free next restNamed).trans
        (.setWaiter host next.requestId (grantedLease_lateWaiter waiter))
      exact (opens.trans (.publishRelease host free)).trans
        (induction (dropped.publishRelease false) restKeys restNamed)
  | handedOff state next rest remote =>
      have popped := busy.setLocal { state.localObject host key with pending := rest }
        busy.available busy.held
          (fun request member => keys request (List.mem_cons_of_mem _ member))
      refine (Calm.setLocal host fun _ request member => ?_).trans
        (.handOff popped.inv.selfQueues remote free (named next List.mem_cons_self))
      exact named request (List.mem_cons_of_mem _ member)

/-- Serving a queue meets no request of the host itself whose record is gone. -/
def Answerable (host : cluster.Host) :
    List (TokenRequest cluster) → (Nat → Option Waiter) → Bool
  | [], _ => true
  | next :: rest, waiters =>
      if next.requester ≠ host then true
      else
        match waiters next.requestId with
        | none => false
        | some waiter =>
            if waiter.abandoned then
              Answerable host rest
                (Function.update waiters next.requestId (lateWaiter waiter))
            else true

/-- Serving a queue succeeds exactly when the queue is answerable. -/
theorem Served.isOk {pending : List (TokenRequest cluster)} {result : Status × TokenState cluster}
    (served : Served host key pending state result) (empty : state.SelfQueuesEmpty) :
    result.1.isOk = Answerable host pending (state.waiter host) := by
  induction served with
  | rest state => simp [Answerable]
  | orphan state next rest local_ missing => simp [Answerable, local_, missing]
  | granted state next rest waiter local_ found kept => simp [Answerable, local_, found, kept]
  | late state next rest waiter result local_ found abandoned served induction =>
      have waiters : (((state.opened host key next rest).setWaiter host next.requestId
          (lateWaiter waiter)).publishRelease host key false).waiter host =
            Function.update (state.waiter host) next.requestId (lateWaiter waiter) := by
        funext requestId
        simp [opened, Function.update_apply]
      have opens : ((state.opened host key next rest).setWaiter host next.requestId
          (lateWaiter waiter)).SelfQueuesEmpty := by
        intro other
        simpa [opened] using empty other
      rw [induction (opens.setBlock key _), waiters]
      simp [Answerable, local_, found, abandoned]
  | handedOff state next rest remote =>
      have popped := empty.setLocal host key { state.localObject host key with pending := rest }
      simp [Answerable, remote, (handOff_spec key popped remote).1]

theorem release_refused {lease : TokenLease} {modified : Bool}
    (refused : (state.leaseStatus host lease).isOk = false ∨
      modified = true ∧ (state.block lease.key).writebackEpoch % 2 = 0) :
    (state.release host lease modified).2 = state ∧
      (state.release host lease modified).1.isOk = false := by
  rw [release, releasePending]
  cases accepted : (state.leaseStatus host lease).isOk with
  | false => simp [accepted]
  | true =>
      rw [accepted] at refused
      simp [refused.resolve_left (by simp)]

/-- An accepted release publishes and is calm afterwards. -/
theorem BusyAt.release_calm (busy : state.BusyAt leased host key tokenEpoch)
    (names : state.Keyed issued) {lease : TokenLease} (leaseKey : lease.key = key)
    (epoch : lease.tokenEpoch = tokenEpoch) (live : state.Live key) {modified : Bool}
    (odd : modified = true → (state.block key).writebackEpoch % 2 = 1) :
    Calm issued leased (state.publishRelease host key modified)
      (state.release host lease modified).2 := by
  obtain rfl := leaseKey
  have keys := busy.inv.pendingKeys host lease.key
  have served := releasePending_served (state.localObject host lease.key).pending live
    (busy.presented rfl epoch) odd keys
  exact served.calm (busy.publishRelease modified) keys (names.pending host lease.key)

/-- An unmodified release of a lease that has left the tables is calm. -/
theorem BusyAt.drop_calm (busy : state.BusyAt leased host key tokenEpoch)
    (names : state.Keyed issued) {lease : TokenLease} (leaseKey : lease.key = key)
    (epoch : lease.tokenEpoch = tokenEpoch) :
    Calm issued leased state (state.release host lease false).2 := by
  obtain rfl := leaseKey
  cases accepted : (state.leaseStatus host lease).isOk with
  | false =>
      rw [(release_refused (.inl accepted)).1]
      exact .refl state
  | true =>
      have live := busy.inv.allLive.live_of_leaseStatus accepted
      exact (Calm.publishRelease host busy.unleased).trans
        (busy.release_calm names rfl epoch live (by simp))

/-! ## Handlers and operations -/

namespace Calm

theorem handleReject (host : cluster.Host) (message : TokenReject cluster) :
    Calm issued leased state (state.handleReject host message).2 := by
  simp only [TokenState.handleReject]
  split
  · exact .refl state
  · split
    · exact .refl state
    · split
      · exact .refl state
      · refine .setWaiter host message.requestId ?_
        split
        · rfl
        · simp only [grantedLease, Option.bind_some]
          split <;> simp_all

theorem handleCancelAck (host : cluster.Host) (message : TokenCancelAck cluster) :
    Calm issued leased state (state.handleCancelAck host message).2 := by
  simp only [TokenState.handleCancelAck]
  split
  · exact .refl state
  · split
    · exact .refl state
    · split
      · exact .refl state
      · refine .setWaiter host message.requestId ?_
        split <;> simp [grantedLease]

theorem reject (host : cluster.Host) (request : TokenRequest cluster)
    (reason : TokenCompletionReason) :
    Calm issued leased state (state.reject host request reason).2 := by
  simp only [TokenState.reject]
  split
  · exact handleReject host _
  · exact .enqueueOutbound host _ (by simp) (by simp)

theorem acknowledgeCancel (host : cluster.Host) (message : TokenCancel cluster)
    (reason : TokenCompletionReason) :
    Calm issued leased state (state.acknowledgeCancel host message reason).2 := by
  simp only [TokenState.acknowledgeCancel]
  split
  · exact handleCancelAck host _
  · exact .enqueueOutbound host _ (by simp) (by simp)

theorem handleCancel (host : cluster.Host) (message : TokenCancel cluster) :
    Calm issued leased state (state.handleCancel host message).2 := by
  simp only [TokenState.handleCancel]
  split
  · exact .refl state
  · split
    · exact acknowledgeCancel host message .cancelled
    · split
      · exact .enqueueOutbound host _ (by simp) (by simp)
      · refine (Calm.setLocal host fun names request member => ?_).trans
          (acknowledgeCancel host message _)
        exact names.pending host message.key request (List.mem_of_mem_eraseP member)

theorem sendCancel (host destination : cluster.Host) (message : TokenCancel cluster) :
    Calm issued leased state (state.sendCancel host destination message).2 := by
  simp only [TokenState.sendCancel]
  split
  · exact handleCancel host message
  · exact .enqueueOutbound host _ (by simp) (by simp)

theorem handleRequest (inv : state.TokenInv leased) (names : state.Keyed issued)
    (host : cluster.Host) {request : TokenRequest cluster}
    (named : issued request.requester request.requestId = some request.key) :
    Calm issued leased state (state.handleRequest host request).2 := by
  simp only [TokenState.handleRequest]
  split
  · exact .refl state
  · split
    · exact reject host request _
    · rename_i found
      split
      · exact reject host request _
      · split
        · exact reject host request _
        · split
          · refine .enqueueOutbound host _ ?_ (by simp)
            rintro message same
            obtain rfl := Packet.request.inj same
            exact named
          · have live := inv.allLive.live_of_target (by simpa using found)
            split
            · refine .setLocal host fun _ other member => ?_
              rcases List.mem_append.mp member with old | new
              · exact names.pending host request.key other old
              · rw [List.mem_singleton.mp new]
                exact named
            · rename_i free
              obtain ⟨phase, at_⟩ := inv.phases request.key
              obtain ⟨available, notHeld⟩ : (state.localObject host request.key).available = true ∧
                  ¬(state.localObject host request.key).held = true := by
                simpa [not_or] using free
              obtain ⟨rfl, owner⟩ := at_.idle_of_available available notHeld
              have busy := inv.take host at_ owner
              have served := grant_release_served (state.setLocal host request.key
                { state.localObject host request.key with held := true }) request
                (live.congr rfl) rfl (at_.even rfl) busy.owner
                  (busy.inv.pendingKeys host request.key)
              have taken : Calm issued leased state (state.setLocal host request.key
                  { state.localObject host request.key with held := true }) :=
                .setLocal host fun names => names.pending host request.key
              refine taken.trans (served.calm busy ?_ ?_)
              · intro other member
                rcases List.mem_cons.mp member with same | old
                · rw [same]
                · exact busy.inv.pendingKeys host request.key other old
              · intro other member
                rcases List.mem_cons.mp member with same | old
                · rw [same]
                  exact named
                · exact (taken.keyed names).pending host request.key other old

/-- Handling a grant whose packet was just popped. -/
theorem handleGrant (inv : state.TokenInv leased) (names : state.Keyed issued)
    (host : cluster.Host) {message : TokenGrant cluster}
    (lost : state.TokenAt leased message.key .lost)
    (named : issued message.newOwner message.requestId = some message.key) :
    Calm issued leased state (state.handleGrant host message).2 := by
  have free : Unleased leased message.key := lost.unleased fun _ _ => rfl
  simp only [TokenState.handleGrant]
  split
  · exact .refl state
  · rename_i addressed
    obtain ⟨mine, -⟩ : message.newOwner = host ∧ message.requestId ≠ 0 := by
      simpa [not_or] using addressed
    rw [mine] at named
    split
    · exact handleReject host _
    · split
      · exact .refl state
      · rename_i matching
        obtain ⟨owner, epoch, version⟩ : (state.block message.key).tokenOwner = host ∧
            (state.block message.key).tokenEpoch = message.tokenEpoch ∧
            (state.block message.key).version = message.version := by
          simpa [not_or] using matching
        split
        · exact .refl state
        · rename_i waiter found
          rw [state.activateIf_of_even message.key _ (lost.even rfl)]
          have busy := inv.land host lost owner.symm message.activateCoherenceEpoch
            { (state.activateIf message.key message.activateCoherenceEpoch).2.localObject
              host message.key with held := true, available := true } rfl rfl
            (by simpa using inv.pendingKeys host message.key)
          have landed : Calm issued leased state
              ((state.activateIf message.key message.activateCoherenceEpoch).2.setLocal host
                message.key
                { (state.activateIf message.key message.activateCoherenceEpoch).2.localObject
                  host message.key with held := true, available := true }) :=
            (Calm.activateIf free message.activateCoherenceEpoch).trans
              (.setLocal host fun names => names.pending host message.key)
          simp only [Status.isOk_ok, if_true, completeGrant]
          split
          · have empty : grantedLease (if waiter.retainCompletion then some
                { waiter with
                  state := .cancelled
                  completionStatus := .failedPrecondition "late token grant was cancelled" }
                else none) = none := by
              split <;> simp [grantedLease]
            have cleared := landed.trans (Calm.setWaiter host message.requestId empty)
            exact cleared.trans ((busy.clearWaiter host message.requestId empty).drop_calm
              (cleared.keyed names) rfl epoch.symm)
          · exact landed.trans (.grantWaiter host message.requestId named)

theorem pop {source destination : cluster.Host} {packet : Packet cluster}
    (popped : state.pop source destination = some (packet, after)) :
    Calm issued leased state after := by
  obtain ⟨descriptor, block, -⟩ := pop_eq_some popped
  have fifos : ∀ from_ to_ other, other ∈ after.fifo from_ to_ → other ∈ state.fifo from_ to_ := by
    intro from_ to_ other member
    by_cases same : from_ = source ∧ to_ = destination
    · obtain ⟨rfl, rfl⟩ := same
      rw [pop_fifo popped]
      exact List.mem_cons_of_mem _ member
    · rwa [pop_fifo_of_ne popped same] at member
  refine ⟨descriptor, by simp [pop_nextRequestId popped], by simp [block], by simp [block],
    fun names => ?_⟩
  exact
    { positive := by simpa [pop_nextRequestId popped] using names.positive
      drawn := fun other otherId otherKey found =>
        ⟨(names.drawn other otherId otherKey found).1.congr descriptor,
          by simpa [pop_nextRequestId popped] using (names.drawn other otherId otherKey found).2⟩
      requests := fun from_ to_ request member =>
        names.requests from_ to_ request (fifos from_ to_ _ member)
      grants := fun from_ to_ grant member =>
        names.grants from_ to_ grant (fifos from_ to_ _ member)
      pending := by simpa [pop_localObject popped] using names.pending
      granted := by simpa [pop_waiter popped] using names.granted }

theorem deliver (inv : state.TokenInv leased) (names : state.Keyed issued)
    {source destination : cluster.Host} {packet : Packet cluster}
    (popped : state.pop source destination = some (packet, after)) :
    Calm issued leased state (after.handleMessage destination packet).2 := by
  have calm : Calm issued leased state after := pop popped
  have inv' := inv.pop popped
  have head : packet ∈ state.fifo source destination := by
    rw [pop_fifo popped]
    exact List.mem_cons_self
  refine calm.trans ?_
  cases packet with
  | request message =>
      simp only [handleMessage, inv'.allLive.not_retiring]
      exact handleRequest inv' (calm.keyed names) destination
        (names.requests source destination message head)
  | grant message =>
      simp only [handleMessage, inv'.allLive.not_retiring]
      obtain ⟨phase, at_⟩ := inv.phases message.key
      exact handleGrant inv' (calm.keyed names) destination (at_.pop_grant popped rfl).2.2
        (names.grants source destination message head)
  | reject message =>
      simp only [handleMessage, inv'.allLive.not_retiring]
      exact handleReject destination message
  | cancel message =>
      simp only [handleMessage, inv'.allLive.not_retiring]
      exact handleCancel destination message
  | cancelAck message =>
      simp only [handleMessage, inv'.allLive.not_retiring]
      exact handleCancelAck destination message
  | application => exact .refl after

theorem dropWaiter (inv : state.TokenInv leased) (names : state.Keyed issued)
    (host : cluster.Host) {requestId : Nat} {waiter : Waiter}
    (found : state.waiter host requestId = some waiter) (granted : waiter.state = .granted) :
    Calm issued leased state
      ((state.setWaiter host requestId none).release host waiter.lease false).2 := by
  have cleared : Calm issued leased state (state.setWaiter host requestId none) :=
    .setWaiter host requestId rfl
  exact cleared.trans ((inv.busy_of_waiter host found granted none rfl).drop_calm
    (cleared.keyed names) rfl rfl)

theorem cancel (inv : state.TokenInv leased) (names : state.Keyed issued) (host : cluster.Host)
    (handle : TokenRequestHandle) : Calm issued leased state (state.cancel host handle).2 := by
  simp only [TokenState.cancel]
  split
  · exact .refl state
  · rename_i waiter found
    cases phase : waiter.state with
    | granted => exact dropWaiter inv names host found phase
    | rejected | cancelled => exact .setWaiter host handle.requestId rfl
    | active | cancelling =>
        have marked : Calm issued leased state (state.setWaiter host handle.requestId
            (some { waiter with abandoned := true, state := .cancelling })) :=
          .setWaiter host handle.requestId (by simp [grantedLease])
        dsimp only
        split
        · exact marked.trans (.setWaiter host handle.requestId rfl)
        · split
          · exact marked.trans (acknowledgeCancel host _ _)
          · exact marked.trans (sendCancel host _ _)

theorem cancelAndWait (inv : state.TokenInv leased) (names : state.Keyed issued)
    (host : cluster.Host) (handle : TokenRequestHandle) :
    Calm issued leased state (state.cancelAndWait host handle).2 := by
  simp only [TokenState.cancelAndWait]
  split
  · exact .refl state
  · rename_i waiter found
    have kept : grantedLease (some { waiter with retainCompletion := true }) =
        grantedLease (state.waiter host handle.requestId) := by
      simp [found, grantedLease]
    have marked : Calm issued leased state (state.setWaiter host handle.requestId
        (some { waiter with retainCompletion := true })) := by
      cases granted : waiter.state with
      | granted =>
          refine .grantWaiter host handle.requestId (names.granted host handle.requestId _ ?_)
          simp [found, grantedLease, granted]
      | active | cancelling | rejected | cancelled =>
          exact .setWaiter host handle.requestId (by simp [grantedLease])
    exact marked.trans (cancel (inv.keepWaiter host handle.requestId kept) (marked.keyed names)
      host handle)

theorem awaitCancel (inv : state.TokenInv leased) (names : state.Keyed issued)
    (host : cluster.Host) (handle : TokenRequestHandle) :
    Calm issued leased state (state.awaitCancel host handle).2 := by
  simp only [TokenState.awaitCancel]
  split
  · exact .refl state
  · rename_i waiter found
    cases phase : waiter.state with
    | granted => exact dropWaiter inv names host found phase
    | rejected | cancelled => exact .setWaiter host handle.requestId rfl
    | active | cancelling => exact .refl state

/-- `Wait` only drops the waiter. -/
theorem wait (host : cluster.Host) (handle : TokenRequestHandle) :
    Calm issued leased state (state.wait host handle).2 := by
  simp only [TokenState.wait]
  split
  · exact .refl state
  · rename_i waiter found
    cases phase : waiter.state with
    | granted | rejected | cancelled => exact .setWaiter host handle.requestId rfl
    | active | cancelling => exact .refl state

end Calm

/-- Drawing an identifier for a block names it. -/
theorem Keyed.issue (names : state.Keyed issued) (host : cluster.Host) (live : state.Live key) :
    (state.issue host key.object).Keyed
      (updateEntry issued host (state.nextRequestId host) (some key)) := by
  have extends_ : ∀ {other requestId otherKey}, issued other requestId = some otherKey →
      updateEntry issued host (state.nextRequestId host) (some key) other requestId =
        some otherKey := by
    intro other requestId otherKey found
    rw [updateEntry_apply, if_neg, found]
    rintro ⟨rfl, rfl⟩
    exact (names.drawn other _ otherKey found).2.ne rfl
  refine ⟨fun other => ?_, fun other requestId otherKey found => ?_, ?_, ?_, ?_, ?_⟩
  · have positive := names.positive other
    rw [issue_nextRequestId]
    split <;> omega
  · rw [updateEntry_apply] at found
    rw [issue_nextRequestId]
    split at found
    · rename_i same
      obtain ⟨rfl, rfl⟩ := same
      obtain rfl := Option.some.inj found
      exact ⟨live.congr rfl, by simp⟩
    · obtain ⟨otherLive, below⟩ := names.drawn other requestId otherKey found
      refine ⟨otherLive.congr rfl, ?_⟩
      split
      · rename_i same
        rw [same] at below
        omega
      · exact below
  · intro source destination request member
    exact extends_ (names.requests source destination request (by simpa using member))
  · intro source destination grant member
    exact extends_ (names.grants source destination grant (by simpa using member))
  · intro other otherKey request member
    exact extends_ (names.pending other otherKey request (by simpa using member))
  · intro other requestId lease found
    rw [issue_waiter] at found
    split at found
    · simp [grantedLease, freshWaiter] at found
    · exact extends_ (names.granted other requestId lease found)

/-- `Request` fails without a trace or draws an identifier and hands its message on calmly. -/
theorem request_calm (inv : state.TokenInv leased) (names : state.Keyed issued)
    (host : cluster.Host) (key : BlockKey) (activate : Bool) :
    (∃ status, status.isOk = false ∧
      state.request host key activate = (.error status, state)) ∨
    state.Live key ∧
      (state.request host key activate).1 = .ok ⟨key, state.nextRequestId host⟩ ∧
      Calm (updateEntry issued host (state.nextRequestId host) (some key)) leased
        (state.issue host key.object) (state.request host key activate).2 := by
  cases found : (state.target host key false).isOk with
  | true =>
      have live := inv.allLive.live_of_target found
      rw [request_live live inv.selfQueues (names.positive host)]
      · refine .inr ⟨live, rfl,
          .handleRequest (inv.issue host key.object) (names.issue host live) host ?_⟩
        simp [requestMessage]
      · intro available notHeld
        obtain ⟨phase, at_⟩ := inv.phases key
        obtain ⟨rfl, -⟩ := at_.idle_of_available available (by simp [notHeld])
        exact at_.even rfl
  | false => exact .inl ⟨state.target host key false, found, by simp [request, found]⟩

end Cxloom.LoomMem.TokenState

namespace Cxloom.LoomMem.TokenConfig

variable {cluster : Cluster} {config next : TokenConfig cluster} {op : TokenOp cluster}
  {status : Status}

/-! ## Actions -/

/-- The invariant of every run about tokens and names. -/
structure NamedInv (config : TokenConfig cluster) : Prop where
  token : config.state.TokenInv config.leased
  /-- Requests, grants and leases name their block. -/
  names : config.state.Keyed config.issued
  leases : ∀ host requestId lease, config.leased host requestId = some lease →
    config.issued host requestId = some lease.key

theorem initial_named (cluster : Cluster)
    (allocation : GlobalPointer → Option (cluster.Host × Nat)) :
    (initial cluster allocation).NamedInv where
  token := initial_inv cluster allocation
  names :=
    { positive := fun _ => Nat.one_pos
      drawn := by simp [initial]
      requests := by simp [initial, TokenState.fifo]
      grants := by simp [initial, TokenState.fifo]
      pending := by simp [initial, TokenState.localObject]
      granted := by simp [initial, TokenState.waiter, TokenState.grantedLease] }
  leases := by simp [initial]

open TokenState in
theorem publishApplication_calm {issued : cluster.Host → Nat → Option BlockKey}
    {leased : cluster.Host → Nat → Option TokenLease} (state : TokenState cluster)
    (source destination : cluster.Host) :
    Calm issued leased state (publishApplication state source destination) := by
  have fifos : ∀ from_ to_ packet, packet ≠ .application →
      packet ∈ (publishApplication state source destination).fifo from_ to_ →
      packet ∈ state.fifo from_ to_ := by
    intro from_ to_ packet kind member
    rcases publishApplication_fifo state source destination from_ to_ with
      same | ⟨before, behind, old, new⟩
    · rwa [same] at member
    · rw [new] at member
      rw [old]
      simpa [kind] using member
  refine ⟨rfl, fun _ => rfl, fun _ => rfl, fun _ _ _ _ => rfl, fun names => ?_⟩
  exact
    { positive := names.positive
      drawn := fun other otherId otherKey found =>
        ⟨(names.drawn other otherId otherKey found).1.congr rfl,
          (names.drawn other otherId otherKey found).2⟩
      requests := fun from_ to_ request member =>
        names.requests from_ to_ request (fifos from_ to_ _ (by simp) member)
      grants := fun from_ to_ grant member =>
        names.grants from_ to_ grant (fifos from_ to_ _ (by simp) member)
      pending := names.pending
      granted := names.granted }

/-- Whether an action presents a lease for the block. -/
def Presents (config : TokenConfig cluster) (key : BlockKey) : TokenOp cluster → Prop
  | .beginWriteback _ lease => lease.key = key
  | .release host requestId _ =>
      ∃ lease, config.leased host requestId = some lease ∧ lease.key = key
  | .request _ _ _ | .wait _ _ | .cancel _ _ | .cancelAndWait _ _ | .awaitCancel _ _
  | .progress _ | .publish _ _ | .deliver _ _ => False

section Release

variable {host : cluster.Host} {requestId : Nat} {lease : TokenLease}

/-- A release of a lease of the table is accepted: it publishes and is calm afterwards. -/
theorem release_published (inv : config.NamedInv)
    (found : config.leased host requestId = some lease) {modified : Bool}
    (odd : modified = true → (config.state.block lease.key).writebackEpoch % 2 = 1) :
    TokenState.Calm config.issued (updateEntry config.leased host requestId none)
      (config.state.publishRelease host lease.key modified)
      (config.state.release host lease modified).2 := by
  have live := (inv.names.drawn host requestId lease.key (inv.leases host requestId lease found)).1
  exact (inv.token.busy_of_caller host found).release_calm inv.names rfl rfl live odd

/-- An accepted release reports success exactly when its queue is answerable. -/
theorem release_isOk (inv : config.NamedInv)
    (found : config.leased host requestId = some lease) {modified : Bool}
    (odd : modified = true → (config.state.block lease.key).writebackEpoch % 2 = 1) :
    (config.state.release host lease modified).1.isOk =
      TokenState.Answerable host (config.state.localObject host lease.key).pending
        (config.state.waiter host) := by
  have live := (inv.names.drawn host requestId lease.key (inv.leases host requestId lease found)).1
  have busy := inv.token.busy_of_caller host found
  have served := TokenState.releasePending_served
    (config.state.localObject host lease.key).pending live (busy.presented rfl rfl) odd
    (inv.token.pendingKeys host lease.key)
  exact served.isOk (busy.publishRelease modified).inv.selfQueues

/-- A release leaves the sidecar of every other block alone. -/
theorem release_block_of_ne (inv : config.NamedInv)
    (found : config.leased host requestId = some lease) (modified : Bool) {other : cluster.Host}
    {otherId : Nat} {otherLease : TokenLease}
    (otherFound : config.leased other otherId = some otherLease)
    (apart : otherLease.key ≠ lease.key) :
    (config.state.release host lease modified).2.block otherLease.key =
      config.state.block otherLease.key := by
  by_cases closed : modified = true ∧ (config.state.block lease.key).writebackEpoch % 2 = 0
  · rw [(TokenState.release_refused (.inr closed)).1]
  · have odd : modified = true → (config.state.block lease.key).writebackEpoch % 2 = 1 := by
      intro changed
      have notEven : (config.state.block lease.key).writebackEpoch % 2 ≠ 0 := fun even =>
        closed ⟨changed, even⟩
      omega
    have kept : updateEntry config.leased host requestId none other otherId = some otherLease := by
      rw [updateEntry_apply, if_neg, otherFound]
      rintro ⟨rfl, rfl⟩
      rw [found] at otherFound
      exact apart (congrArg TokenLease.key (Option.some.inj otherFound)).symm
    rw [(release_published inv found odd).pinned other otherId otherLease kept]
    simp [TokenState.publishRelease, apart]

/-- A release counts exactly its modification. -/
theorem release_version (inv : config.NamedInv)
    (found : config.leased host requestId = some lease) {modified : Bool}
    (odd : modified = true → (config.state.block lease.key).writebackEpoch % 2 = 1)
    (key : BlockKey) :
    ((config.state.release host lease modified).2.block key).version =
      (config.state.block key).version + if key = lease.key then modified.toNat else 0 := by
  rw [(release_published inv found odd).version key]
  by_cases same : key = lease.key
  · subst same
    cases modified <;> simp [TokenState.publishRelease] <;> split <;> rfl
  · simp [TokenState.publishRelease, same]

end Release

/-- Actions that neither draw an identifier nor present a lease. -/
def Serves : TokenOp cluster → Prop
  | .request _ _ _ | .beginWriteback _ _ | .release _ _ _ => False
  | .wait _ _ | .cancel _ _ | .cancelAndWait _ _ | .awaitCancel _ _ | .progress _ | .publish _ _
  | .deliver _ _ => True

/-- Actions that draw no identifier and present no lease are calm. -/
theorem step_calm (inv : config.NamedInv) (performed : config.step op = some (status, next))
    (serves : Serves op) :
    TokenState.Calm config.issued config.leased config.state next.state ∧
      next.issued = config.issued := by
  cases step_effect performed with
  | requested | requestFailed | beganWriteback | released => exact serves.elim
  | waited host requestId key lease
  | waitFailed host requestId key status => exact ⟨.wait host ⟨key, requestId⟩, rfl⟩
  | cancelled host requestId key => exact ⟨.cancel inv.token inv.names host _, rfl⟩
  | cancelledAndWaited host requestId key =>
      exact ⟨.cancelAndWait inv.token inv.names host _, rfl⟩
  | awaitedCancel host requestId key => exact ⟨.awaitCancel inv.token inv.names host _, rfl⟩
  | progressed host => exact ⟨.progressOutbound host, rfl⟩
  | published source destination =>
      exact ⟨publishApplication_calm config.state source destination, rfl⟩
  | delivered source destination packet after popped =>
      exact ⟨.deliver inv.token inv.names popped, rfl⟩

/-- A request changes nothing or draws the next identifier of its host, which was not issued. -/
theorem step_request (inv : config.NamedInv) {host : cluster.Host} {key : BlockKey}
    {activate : Bool} (performed : config.step (.request host key activate) = some (status, next)) :
    status.isOk = false ∧ next = config ∨
    status.isOk = true ∧ config.state.Live key ∧
      config.issued host (config.state.nextRequestId host) = none ∧
      next.issued = updateEntry config.issued host (config.state.nextRequestId host) (some key) ∧
      next.leased = config.leased ∧
      TokenState.Calm next.issued config.leased
        (config.state.issue host key.object) next.state := by
  rcases TokenState.request_calm inv.token inv.names host key activate with
    ⟨failure, notOk, result⟩ | ⟨live, result, calm⟩
  · left
    simp only [step, result] at performed
    obtain ⟨rfl, rfl⟩ := Prod.mk.inj (Option.some.inj performed)
    exact ⟨notOk, rfl⟩
  · right
    simp only [step, result] at performed
    obtain ⟨rfl, rfl⟩ := Prod.mk.inj (Option.some.inj performed)
    refine ⟨rfl, live, ?_, rfl, rfl, calm⟩
    cases fresh : config.issued host (config.state.nextRequestId host) with
    | none => rfl
    | some other => exact ((inv.names.drawn host _ other fresh).2.ne rfl).elim

theorem beginWriteback_keyed (inv : config.NamedInv) (host : cluster.Host) (lease : TokenLease) :
    (config.state.beginWriteback host lease).2.Keyed config.issued := by
  simp only [TokenState.beginWriteback, TokenState.activateWriter]
  split
  · split
    · exact inv.names.setBlock _ _
    · exact inv.names
  · exact inv.names

theorem release_keyed (inv : config.NamedInv) {host : cluster.Host} {requestId : Nat}
    {lease : TokenLease} (found : config.leased host requestId = some lease) (modified : Bool) :
    (config.state.release host lease modified).2.Keyed config.issued := by
  by_cases closed : modified = true ∧ (config.state.block lease.key).writebackEpoch % 2 = 0
  · rw [(TokenState.release_refused (.inr closed)).1]
    exact inv.names
  · refine (release_published inv found ?_).keyed (inv.names.setBlock _ _)
    intro changed
    have notEven : (config.state.block lease.key).writebackEpoch % 2 ≠ 0 := fun even =>
      closed ⟨changed, even⟩
    omega

theorem request_named (inv : config.NamedInv) {host : cluster.Host} {key : BlockKey}
    {activate : Bool} (performed : config.step (.request host key activate) = some (status, next)) :
    next.NamedInv := by
  have token := step_inv inv.token performed
  rcases step_request inv performed with ⟨-, same⟩ | ⟨-, live, fresh, issued, leased, calm⟩
  · rwa [same]
  · refine ⟨token, calm.keyed (issued ▸ inv.names.issue host live), ?_⟩
    intro other requestId lease found
    rw [leased] at found
    have named := inv.leases other requestId lease found
    rw [issued, updateEntry_apply, if_neg, named]
    rintro ⟨rfl, rfl⟩
    rw [fresh] at named
    cases named

/-- A lease returned by a wait is for the block of its request. -/
theorem wait_named (inv : config.NamedInv) {host : cluster.Host} {handle : TokenRequestHandle}
    {lease : TokenLease} (granted : (config.state.wait host handle).1 = .ok lease) :
    config.issued host handle.requestId = some lease.key := by
  obtain ⟨waiter, found, finished, rfl, -⟩ := TokenState.wait_ok granted
  exact inv.names.granted host handle.requestId _
    (by simp [found, TokenState.grantedLease, finished])

/-- Every action keeps the invariant. -/
theorem step_named (inv : config.NamedInv) (performed : config.step op = some (status, next)) :
    next.NamedInv := by
  have token := step_inv inv.token performed
  cases step_effect performed with
  | requested | requestFailed => exact request_named inv performed
  | waited host requestId key lease issued granted =>
      refine ⟨token, (step_calm inv performed trivial).1.keyed inv.names, ?_⟩
      intro other otherId otherLease found
      dsimp only at found
      rw [updateEntry_apply] at found
      split at found
      · rename_i same
        obtain ⟨rfl, rfl⟩ := same
        obtain rfl := Option.some.inj found
        exact wait_named inv granted
      · exact inv.leases other otherId otherLease found
  | waitFailed | cancelled | cancelledAndWaited | awaitedCancel | progressed | published
  | delivered =>
      exact ⟨token, (step_calm inv performed trivial).1.keyed inv.names, inv.leases⟩
  | beganWriteback host lease => exact ⟨token, beginWriteback_keyed inv host lease, inv.leases⟩
  | released host requestId modified lease held =>
      refine ⟨token, release_keyed inv held modified, ?_⟩
      intro other otherId otherLease found
      dsimp only at found
      split at found
      · rw [updateEntry_apply] at found
        split at found
        · cases found
        · exact inv.leases other otherId otherLease found
      · exact inv.leases other otherId otherLease found

theorem reaches_named {allocation : GlobalPointer → Option (cluster.Host × Nat)}
    (execution : (initial cluster allocation).Reaches config) : config.NamedInv :=
  execution.preserves NamedInv (initial_named cluster allocation)
    fun _ _ _ _ inv _ performed => step_named inv performed

theorem step_issued (inv : config.NamedInv) (performed : config.step op = some (status, next))
    {host : cluster.Host} {requestId : Nat} {key : BlockKey}
    (found : config.issued host requestId = some key) : next.issued host requestId = some key := by
  cases op with
  | request other otherKey activate =>
      rcases step_request inv performed with ⟨-, same⟩ | ⟨-, -, fresh, issued, -⟩
      · rwa [same]
      · rw [issued, updateEntry_apply, if_neg, found]
        rintro ⟨rfl, rfl⟩
        rw [fresh] at found
        cases found
  | beginWriteback other lease =>
      cases performed
      exact found
  | release other otherId modified =>
      cases step_effect performed
      exact found
  | wait | cancel | cancelAndWait | awaitCancel | progress | publish | deliver =>
      rw [(step_calm inv performed trivial).2]
      exact found

theorem beginWriteback_block (state : TokenState cluster) (host : cluster.Host)
    (lease : TokenLease) (key : BlockKey) :
    ((state.beginWriteback host lease).2.block key).version = (state.block key).version ∧
      (key ≠ lease.key → (state.beginWriteback host lease).2.block key = state.block key) := by
  simp only [TokenState.beginWriteback, TokenState.activateWriter]
  split
  · split
    · by_cases same : key = lease.key
      · simp [same]
      · simp [same]
    · exact ⟨rfl, fun _ => rfl⟩
  · exact ⟨rfl, fun _ => rfl⟩

/-- A lease stays in the table and its sidecar stays as it is while nobody presents it. -/
theorem step_keeps (inv : config.NamedInv) (performed : config.step op = some (status, next))
    {host : cluster.Host} {requestId : Nat} {lease : TokenLease}
    (found : config.leased host requestId = some lease) (collected : op ≠ .wait host requestId)
    (absent : ¬config.Presents lease.key op) :
    next.leased host requestId = some lease ∧
      next.state.block lease.key = config.state.block lease.key := by
  cases step_effect performed with
  | requested | requestFailed =>
      rcases step_request inv performed with ⟨-, same⟩ | ⟨-, -, -, -, -, calm⟩
      · rw [same]
        exact ⟨found, rfl⟩
      · exact ⟨found, calm.pinned host requestId lease found⟩
  | waited other otherId key otherLease issued granted =>
      refine ⟨?_, (step_calm inv performed trivial).1.pinned host requestId lease found⟩
      dsimp only
      rw [updateEntry_apply, if_neg, found]
      rintro ⟨rfl, rfl⟩
      exact collected rfl
  | waitFailed | cancelled | cancelledAndWaited | awaitedCancel | progressed | published
  | delivered =>
      exact ⟨found, (step_calm inv performed trivial).1.pinned host requestId lease found⟩
  | beganWriteback other otherLease =>
      exact ⟨found, (beginWriteback_block config.state other otherLease lease.key).2
        fun same => absent same.symm⟩
  | released other otherId modified otherLease held =>
      have apart : lease.key ≠ otherLease.key := fun same => absent ⟨otherLease, held, same.symm⟩
      refine ⟨?_, release_block_of_ne inv held modified found apart⟩
      dsimp only
      split
      · rw [updateEntry_apply, if_neg, found]
        rintro ⟨rfl, rfl⟩
        rw [found] at held
        exact apart (congrArg TokenLease.key (Option.some.inj held))
      · exact found

/-- Only a modified release counts a version. -/
theorem step_version (inv : config.NamedInv) (performed : config.step op = some (status, next))
    (unmodified : ∀ host requestId, op ≠ .release host requestId true) (key : BlockKey) :
    (next.state.block key).version = (config.state.block key).version := by
  cases step_effect performed with
  | requested | requestFailed =>
      rcases step_request inv performed with ⟨-, same⟩ | ⟨-, -, -, -, -, calm⟩
      · rw [same]
      · exact calm.version key
  | waited | waitFailed | cancelled | cancelledAndWaited | awaitedCancel | progressed | published
  | delivered => exact (step_calm inv performed trivial).1.version key
  | beganWriteback other otherLease =>
      exact (beginWriteback_block config.state other otherLease key).1
  | released other otherId modified otherLease held =>
      cases modified with
      | true => exact (unmodified other otherId rfl).elim
      | false =>
          have closed : false = true →
              (config.state.block otherLease.key).writebackEpoch % 2 = 1 := by
            simp
          simpa using release_version inv held closed key

end Cxloom.LoomMem.TokenConfig
