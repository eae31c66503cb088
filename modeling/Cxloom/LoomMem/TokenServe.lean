import Cxloom.LoomMem.TokenCycle

/-!
# Serving the pending queue

`Release` and `Grant` call each other: a release grants to the oldest pending request, and a grant
to an abandoned local request releases at once.  `Served` lists what one such chain can do to the
state, for a block of a live object whose token the host has in use.  Later arguments use this
relation and never unfold the recursion.
-/

namespace Cxloom.LoomMem.TokenState

variable {cluster : Cluster}

/-! ## One chain of grants -/

/-- The record left behind by a late grant. -/
def lateWaiter (waiter : Waiter) : Option Waiter :=
  if waiter.retainCompletion then
    some
      { waiter with
        state := .cancelled
        completionStatus := .failedPrecondition "late token grant was cancelled" }
  else none

/-- The state in which a local request of the block is granted: the rest stays pending, the epoch
is opened if asked for, and the block is marked in use. -/
def opened (state : TokenState cluster) (host : cluster.Host) (key : BlockKey)
    (request : TokenRequest cluster) (rest : List (TokenRequest cluster)) : TokenState cluster :=
  let popped := state.setLocal host key { state.localObject host key with pending := rest }
  let activated := (popped.activateIf key request.activateCoherenceEpoch).2
  activated.setLocal host key
    { activated.localObject host key with held := true, available := true }

/-- The lease of the present metadata, for a request. -/
def leaseNow (state : TokenState cluster) (key : BlockKey) (request : TokenRequest cluster) :
    TokenLease :=
  { key := request.key
    version := (state.block key).version
    tokenEpoch := (state.block key).tokenEpoch }

/-- What serving a pending queue does to a busy, even block of a live object. -/
inductive Served (host : cluster.Host) (key : BlockKey) :
    List (TokenRequest cluster) → TokenState cluster → Status × TokenState cluster → Prop
  | rest (state : TokenState cluster) :
      Served host key [] state
        (.ok, state.setLocal host key { state.localObject host key with held := false })
  | orphan (state : TokenState cluster) (next : TokenRequest cluster)
      (rest : List (TokenRequest cluster)) :
      next.requester = host → state.waiter host next.requestId = none →
      Served host key (next :: rest) state
        (.notFound "local token requester no longer exists",
          state.setLocal host key { state.localObject host key with pending := rest })
  | granted (state : TokenState cluster) (next : TokenRequest cluster)
      (rest : List (TokenRequest cluster)) (waiter : Waiter) :
      next.requester = host → state.waiter host next.requestId = some waiter →
      waiter.abandoned = false →
      Served host key (next :: rest) state
        (.ok, (state.opened host key next rest).setWaiter host next.requestId
          (some
            { waiter with
              state := .granted
              lease := (state.opened host key next rest).leaseNow key next }))
  | late (state : TokenState cluster) (next : TokenRequest cluster)
      (rest : List (TokenRequest cluster)) (waiter : Waiter)
      (result : Status × TokenState cluster) :
      next.requester = host → state.waiter host next.requestId = some waiter →
      waiter.abandoned = true →
      Served host key rest
        (((state.opened host key next rest).setWaiter host next.requestId
          (lateWaiter waiter)).publishRelease host key false) result →
      Served host key (next :: rest) state result
  | handedOff (state : TokenState cluster) (next : TokenRequest cluster)
      (rest : List (TokenRequest cluster)) :
      next.requester ≠ host →
      Served host key (next :: rest) state
        ((state.setLocal host key
          { state.localObject host key with pending := rest }).handOff host key next)

section Opened

variable (state : TokenState cluster) (host : cluster.Host) (key : BlockKey)

theorem activateIf_of_even (activate : Bool)
    (even : (state.block key).writebackEpoch % 2 = 0) :
    (state.activateIf key activate).1 = .ok := by
  cases activate <;> simp [activateIf, activateWriter, even]

@[simp] theorem activateIf_waiter (activate : Bool) :
    (state.activateIf key activate).2.waiter = state.waiter := by
  simp only [activateIf, activateWriter]
  split
  · split <;> rfl
  · rfl

@[simp] theorem activateIf_localObject (activate : Bool) :
    (state.activateIf key activate).2.localObject = state.localObject := by
  simp only [activateIf, activateWriter]
  split
  · split <;> rfl
  · rfl

@[simp] theorem activateIf_fifo (activate : Bool) :
    (state.activateIf key activate).2.fifo = state.fifo := by
  simp only [activateIf, activateWriter]
  split
  · split <;> rfl
  · rfl

@[simp] theorem activateIf_outbound (activate : Bool) :
    (state.activateIf key activate).2.outbound = state.outbound := by
  simp only [activateIf, activateWriter]
  split
  · split <;> rfl
  · rfl

@[simp] theorem activateIf_descriptor (activate : Bool) :
    (state.activateIf key activate).2.descriptor = state.descriptor := by
  simp only [activateIf, activateWriter]
  split
  · split <;> rfl
  · rfl

/-- Activation is a sidecar update that keeps owner, epoch and version. -/
theorem activateIf_eq_setBlock (activate : Bool) :
    ∃ writebackEpoch,
      (state.activateIf key activate).2 =
        state.setBlock key { state.block key with writebackEpoch := writebackEpoch } := by
  have unchanged : state = state.setBlock key { state.block key with
      writebackEpoch := (state.block key).writebackEpoch } := by
    simp [setBlock]
  simp only [activateIf, activateWriter]
  split
  · split
    · exact ⟨_, rfl⟩
    · exact ⟨_, unchanged⟩
  · exact ⟨_, unchanged⟩

/-- Activation and local updates commute. -/
theorem setLocal_activateIf (object : LocalObject cluster) (activate : Bool) :
    (state.setLocal host key object).activateIf key activate =
      ((state.activateIf key activate).1,
        (state.activateIf key activate).2.setLocal host key object) := by
  cases activate with
  | false => rfl
  | true =>
      by_cases even : (state.block key).writebackEpoch % 2 = 0
      · simp only [activateIf, activateWriter, setLocal_block, even, if_true]
        rfl
      · simp [activateIf, activateWriter, even]

end Opened

section Publish

variable (state : TokenState cluster) (host : cluster.Host) (key : BlockKey) (modified : Bool)

/-- Publication is a sidecar update that keeps owner and epoch and leaves the block even. -/
theorem publishRelease_eq_setBlock :
    ∃ block, state.publishRelease host key modified = state.setBlock key block ∧
      block.tokenOwner = (state.block key).tokenOwner ∧
      block.tokenEpoch = (state.block key).tokenEpoch ∧
      (state.block key).version ≤ block.version ∧
      block.writebackEpoch % 2 = 0 := by
  refine ⟨_, rfl, ?_⟩
  cases modified <;> split <;> refine ⟨rfl, rfl, ?_, ?_⟩ <;> simp_all <;> omega

@[simp] theorem publishRelease_descriptor :
    (state.publishRelease host key modified).descriptor = state.descriptor := rfl

@[simp] theorem publishRelease_waiter :
    (state.publishRelease host key modified).waiter = state.waiter := rfl

@[simp] theorem publishRelease_localObject :
    (state.publishRelease host key modified).localObject = state.localObject := rfl

@[simp] theorem publishRelease_fifo :
    (state.publishRelease host key modified).fifo = state.fifo := rfl

@[simp] theorem publishRelease_nextRequestId :
    (state.publishRelease host key modified).nextRequestId = state.nextRequestId := rfl

theorem publishRelease_even :
    ((state.publishRelease host key modified).block key).writebackEpoch % 2 = 0 := by
  obtain ⟨block, changed, -, -, -, even⟩ := state.publishRelease_eq_setBlock host key modified
  simpa [changed] using even

theorem publishRelease_owner :
    ((state.publishRelease host key modified).block key).tokenOwner =
      (state.block key).tokenOwner := by
  obtain ⟨block, changed, owner, -⟩ := state.publishRelease_eq_setBlock host key modified
  simpa [changed] using owner

theorem publishRelease_epoch :
    ((state.publishRelease host key modified).block key).tokenEpoch =
      (state.block key).tokenEpoch := by
  obtain ⟨block, changed, -, epoch, -⟩ := state.publishRelease_eq_setBlock host key modified
  simpa [changed] using epoch

theorem publishRelease_version (other : BlockKey) :
    (state.block other).version ≤
      ((state.publishRelease host key modified).block other).version := by
  obtain ⟨block, changed, -, -, version, -⟩ := state.publishRelease_eq_setBlock host key modified
  rw [changed, setBlock_block]
  split
  · rename_i same
    rwa [same]
  · exact Nat.le_refl _

end Publish

/-! ## The service follows `Served` -/

/-- A lease that the service accepts: its host owns the block and has it in use. -/
structure Presented (state : TokenState cluster) (host : cluster.Host) (key : BlockKey)
    (lease : TokenLease) : Prop where
  leaseKey : lease.key = key
  owner : (state.block key).tokenOwner = host
  /-- The ownership epoch did not change since the grant. -/
  epoch : (state.block key).tokenEpoch = lease.tokenEpoch
  /-- The block is in use. -/
  held : (state.localObject host key).held = true

theorem Presented.leaseStatus {state : TokenState cluster} {host : cluster.Host} {key : BlockKey}
    {lease : TokenLease} (presented : state.Presented host key lease) (live : state.Live key) :
    state.leaseStatus host lease = .ok := by
  obtain ⟨rfl, owner, epoch, held⟩ := presented
  simp [TokenState.leaseStatus, live.target, owner, epoch, held]

/-- An accepted lease is for a block in use. -/
theorem held_of_leaseStatus {state : TokenState cluster} {host : cluster.Host} {lease : TokenLease}
    (accepted : (state.leaseStatus host lease).isOk = true) :
    (state.localObject host lease.key).held = true := by
  by_contra idle
  simp only [leaseStatus] at accepted
  split at accepted
  · simp_all
  · split at accepted <;> simp_all

/-- Granting to a queue whose head was taken out is serving the queue. -/
theorem grant_served {state : TokenState cluster} {host : cluster.Host} {key : BlockKey}
    (releaseLate : TokenLease → TokenState cluster → Status × TokenState cluster)
    {next : TokenRequest cluster} (rest : List (TokenRequest cluster))
    (live : state.Live key) (nextKey : next.key = key)
    (even : (state.block key).writebackEpoch % 2 = 0)
    (owner : (state.block key).tokenOwner = host)
    (late : ∀ lease after, after.Live key → after.Presented host key lease →
      (after.localObject host key).pending = rest →
      Served host key rest (after.publishRelease host key false) (releaseLate lease after)) :
    Served host key (next :: rest) state
      (grant releaseLate
        (state.setLocal host key { state.localObject host key with pending := rest }) host key
        next) := by
  have allocated := live.allocated
  by_cases remote : next.requester = host
  · cases found : state.waiter host next.requestId with
    | none =>
        have orphan : Served host key (next :: rest) state _ :=
          .orphan state next rest remote found
        simpa [grant, allocated, remote, found] using orphan
    | some waiter =>
        have activated := (state.setLocal host key
          { state.localObject host key with pending := rest }).activateIf_of_even key
            next.activateCoherenceEpoch (by simpa using even)
        cases abandoned : waiter.abandoned with
        | false =>
            have granted : Served host key (next :: rest) state _ :=
              .granted state next rest waiter remote found abandoned
            simpa [grant, allocated, remote, found, activated, completeGrant, abandoned, opened,
              leaseNow] using granted
        | true =>
            obtain ⟨epoch, changed⟩ := (state.setLocal host key
              { state.localObject host key with pending := rest }).activateIf_eq_setBlock key
                next.activateCoherenceEpoch
            refine Served.late state next rest waiter _ remote found abandoned ?_
            have served := late
              ((state.opened host key next rest).leaseNow key next)
              ((state.opened host key next rest).setWaiter host next.requestId (lateWaiter waiter))
              (live.congr (by simp [opened]))
              ⟨nextKey, by simp [opened, changed, owner], by simp [leaseNow],
                by simp [opened]⟩ (by simp [opened])
            simpa [grant, allocated, remote, found, activated, completeGrant, abandoned, opened,
              leaseNow, lateWaiter] using served
  · have handedOff : Served host key (next :: rest) state _ :=
      .handedOff state next rest remote
    simpa [grant, allocated, remote] using handedOff

/-- `Release` of an accepted lease publishes and then serves the pending queue. -/
theorem releasePending_served {host : cluster.Host} {key : BlockKey} :
    ∀ (pending : List (TokenRequest cluster)) {state : TokenState cluster} {lease : TokenLease}
      {modified : Bool}, state.Live key → state.Presented host key lease →
      (modified = true → (state.block key).writebackEpoch % 2 = 1) →
      (∀ request ∈ pending, request.key = key) →
      Served host key pending (state.publishRelease host key modified)
        (releasePending host pending lease modified state) := by
  intro pending
  induction pending with
  | nil =>
      intro state lease modified live presented odd _
      have accepted := presented.leaseStatus live
      have open_ : ¬(modified = true ∧ (state.block lease.key).writebackEpoch % 2 = 0) := by
        rintro ⟨changed, even⟩
        rw [presented.leaseKey, odd changed] at even
        exact absurd even (by decide)
      have retiring := (live.congr (state.publishRelease_descriptor host key modified)).not_retiring
      have rest : Served host key [] (state.publishRelease host key modified) _ := .rest _
      rw [← presented.leaseKey] at rest retiring ⊢
      rw [releasePending]
      simpa [accepted, open_, retiring] using rest
  | cons next rest induction =>
      intro state lease modified live presented odd keys
      have accepted := presented.leaseStatus live
      have open_ : ¬(modified = true ∧ (state.block lease.key).writebackEpoch % 2 = 0) := by
        rintro ⟨changed, even⟩
        rw [presented.leaseKey, odd changed] at even
        exact absurd even (by decide)
      have live' := live.congr (state.publishRelease_descriptor host key modified)
      have retiring := live'.not_retiring
      have served := grant_served
        (fun late state => releasePending host rest late false state) rest live'
        (keys next List.mem_cons_self) (state.publishRelease_even host key modified)
        ((state.publishRelease_owner host key modified).trans presented.owner)
        (fun late after afterLive afterPresented _ =>
          induction afterLive afterPresented (by simp)
            (fun request member => keys request (List.mem_cons_of_mem _ member)))
      rw [← presented.leaseKey] at served retiring ⊢
      rw [releasePending]
      simpa [accepted, open_, retiring] using served

/-- Granting to a request that was never queued serves it before the pending queue. -/
theorem grant_release_served (state : TokenState cluster) {host : cluster.Host} {key : BlockKey}
    (next : TokenRequest cluster) (live : state.Live key) (nextKey : next.key = key)
    (even : (state.block key).writebackEpoch % 2 = 0)
    (owner : (state.block key).tokenOwner = host)
    (keys : ∀ request ∈ (state.localObject host key).pending, request.key = key) :
    Served host key (next :: (state.localObject host key).pending) state
      (grant (fun late state => state.release host late false) state host key next) := by
  have served := grant_served (fun late state => state.release host late false)
    (state.localObject host key).pending live nextKey even owner
      (fun late after afterLive presented pending => by
      rw [release, presented.leaseKey, pending]
      exact releasePending_served _ afterLive presented (by simp) keys)
  rwa [setLocal_self] at served

/-! ## Handlers on a live block -/

/-- `HandleRequest` of a request that passes the checks. -/
theorem handleRequest_live {state : TokenState cluster} {host : cluster.Host}
    {request : TokenRequest cluster} (live : state.Live request.key)
    (positive : 0 < request.requestId)
    (observed : request.observedVersion ≤ (state.block request.key).version) :
    state.handleRequest host request =
      if (state.block request.key).tokenOwner ≠ host then
        state.sendRequest host (state.block request.key).tokenOwner request
      else if ¬(state.localObject host request.key).available ∨
          (state.localObject host request.key).held then
        (.ok, state.setLocal host request.key
          { state.localObject host request.key with
            pending := (state.localObject host request.key).pending ++ [request] })
      else
        grant (fun late state => state.release host late false)
          (state.setLocal host request.key
            { state.localObject host request.key with held := true }) host request.key request := by
  have inRange : ¬(kMaxHosts ≤ request.requester.val ∨ request.requestId = 0) := by
    have below := Cluster.host_lt_max request.requester
    omega
  have current : ¬(state.block request.key).version < request.observedVersion := by omega
  simp [handleRequest, inRange, live.target, live.allocated, current]

def grantRequest (message : TokenGrant cluster) : TokenRequest cluster :=
  { key := message.key
    requestId := message.requestId
    observedVersion := message.version
    requester := message.newOwner
    activateCoherenceEpoch := message.activateCoherenceEpoch }

/-- `HandleGrant` of a grant that matches the sidecar and a waiter is a local grant of the token
that has just landed. -/
theorem handleGrant_eq_grant {state : TokenState cluster} {host : cluster.Host}
    {message : TokenGrant cluster} (live : state.Live message.key)
    (addressed : message.newOwner = host) (positive : 0 < message.requestId)
    (owner : (state.block message.key).tokenOwner = host)
    (epoch : (state.block message.key).tokenEpoch = message.tokenEpoch)
    (version : (state.block message.key).version = message.version)
    (even : (state.block message.key).writebackEpoch % 2 = 0) {waiter : Waiter}
    (found : state.waiter host message.requestId = some waiter) :
    state.handleGrant host message =
      grant (fun late state => state.release host late false)
        (state.setLocal host message.key
          { state.localObject host message.key with held := true, available := true })
        host message.key (grantRequest message) := by
  obtain ⟨writebackEpoch, changed⟩ := state.activateIf_eq_setBlock message.key
    message.activateCoherenceEpoch
  have nonzero : message.requestId ≠ 0 := by omega
  have opens := state.activateIf_of_even message.key message.activateCoherenceEpoch even
  simp [handleGrant, grant, grantRequest, addressed, nonzero, live.target, live.allocated, owner,
    epoch, version, found, setLocal_activateIf, completeGrant, opens, changed]

/-- The message a new request sends or queues. -/
def requestMessage (state : TokenState cluster) (host : cluster.Host) (key : BlockKey)
    (activateCoherenceEpoch : Bool) : TokenRequest cluster :=
  { key := key
    requestId := state.nextRequestId host
    observedVersion := (state.block key).version
    requester := host
    activateCoherenceEpoch := activateCoherenceEpoch }

/-- A new request of a live block is handled as if it had been delivered to its own host. -/
theorem request_live {state : TokenState cluster} {host : cluster.Host} {key : BlockKey}
    {activate : Bool} (live : state.Live key) (empty : state.SelfQueuesEmpty)
    (positive : 0 < state.nextRequestId host)
    (even : (state.localObject host key).available = true →
      (state.localObject host key).held = false → (state.block key).writebackEpoch % 2 = 0) :
    state.request host key activate =
      (.ok ⟨key, state.nextRequestId host⟩,
        ((state.issue host key.object).handleRequest host
          (state.requestMessage host key activate)).2) := by
  have issuedLive : (state.issue host key.object).Live
      (state.requestMessage host key activate).key := live.congr (issue_descriptor state host _)
  rw [handleRequest_live issuedLive positive (Nat.le_refl _)]
  have allocated := live.allocated
  have message : state.requestMessage host key activate =
      { key := key
        requestId := (state.service host).nextRequestId
        observedVersion := (state.block key).version
        requester := host
        activateCoherenceEpoch := activate } := rfl
  by_cases remote : (state.block key).tokenOwner = host
  · by_cases taken : (state.localObject host key).available = false ∨
        (state.localObject host key).held = true
    · simp [request, live.target, remote, allocated, taken, message, nextRequestId]
    · obtain ⟨available, notHeld⟩ : (state.localObject host key).available = true ∧
          (state.localObject host key).held = false := by
        simpa [not_or] using taken
      have opens := activateIf_of_even (state.issue host key.object) key activate
        (even available notHeld)
      simp [request, live.target, remote, allocated, available, notHeld, message, grant,
        completeGrant, setLocal_activateIf, opens, nextRequestId, freshWaiter]
  · have accepted := enqueueOutbound_status (state.issue host key.object) host
      (state.block key).tokenOwner (.request (state.requestMessage host key activate))
      (empty.issue host key.object) remote
    rw [message] at accepted
    simp [request, live.target, remote, sendRequest, message, accepted, nextRequestId]

/-- A wait that returns a lease collected it from a granted waiter. -/
theorem wait_ok {state : TokenState cluster} {host : cluster.Host} {handle : TokenRequestHandle}
    {lease : TokenLease} (granted : (state.wait host handle).1 = .ok lease) :
    ∃ waiter, state.waiter host handle.requestId = some waiter ∧ waiter.state = .granted ∧
      waiter.lease = lease ∧
      (state.wait host handle).2 = state.setWaiter host handle.requestId none := by
  simp only [TokenState.wait] at granted ⊢
  cases found : state.waiter host handle.requestId with
  | none => simp [found] at granted
  | some waiter =>
      cases phase : waiter.state with
      | granted =>
          exact ⟨waiter, rfl, phase, by simpa [found, phase] using granted, by simp [phase]⟩
      | active | cancelling | rejected | cancelled => simp [found, phase] at granted

end Cxloom.LoomMem.TokenState
