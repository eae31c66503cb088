import Cxloom.LoomMem.TokenBlocks

/-!
# Requests that open no writeback epoch

`AcquireWriteRange` asks for the token without opening a writeback epoch.  Where all requests under
way are of this kind, the services open no epoch by themselves.  They only answer the waiters that
are registered, and a waiter that was given up never obtains a lease.
-/

namespace Cxloom.LoomMem

variable {cluster : Cluster}

/-- A packet asks for no writeback epoch. -/
def Packet.Inactive : Packet cluster → Prop
  | .request message => message.activateCoherenceEpoch = false
  | .grant message => message.activateCoherenceEpoch = false
  | .reject _ | .cancel _ | .cancelAck _ | .application => True

/-- A request that was completed without a lease reports a failure. -/
def Waiter.Reports (waiter : Waiter) : Prop :=
  waiter.state = .rejected ∨ waiter.state = .cancelled → waiter.completionStatus.isOk = false

namespace TokenState

/-- Nothing under way asks for a writeback epoch. -/
structure Inactive (state : TokenState cluster) : Prop where
  packets : ∀ source destination packet, packet ∈ state.fifo source destination → packet.Inactive
  pending : ∀ host key request, request ∈ (state.localObject host key).pending →
    request.activateCoherenceEpoch = false

/-- How a waiter may change while its caller does nothing. -/
structure Answers (old waiter : Waiter) : Prop where
  abandoned : old.abandoned = true → waiter.abandoned = true
  /-- Only a waiter that was not given up obtains a lease. -/
  granted : waiter.state = .granted → old.state = .granted ∨ old.abandoned = false
  /-- A request is completed with a failure. -/
  reports : old.Reports → waiter.Reports

/-- A change that registers no waiter and opens no writeback epoch. -/
structure Passive (before after : TokenState cluster) : Prop where
  waiters : ∀ host requestId waiter, after.waiter host requestId = some waiter →
    ∃ old, before.waiter host requestId = some old ∧ Answers old waiter
  /-- Nothing under way asks for a writeback epoch. -/
  inactive : after.Inactive
  epochs : ∀ key, (after.block key).writebackEpoch % 2 = 1 →
    (before.block key).writebackEpoch % 2 = 1

theorem Answers.refl (waiter : Waiter) : Answers waiter waiter := ⟨id, .inl, id⟩

/-- A waiter that is not granted and stays given up. -/
theorem Answers.of_not_granted {old waiter : Waiter}
    (abandoned : old.abandoned = true → waiter.abandoned = true)
    (refused : waiter.state ≠ .granted) (reports : waiter.Reports) : Answers old waiter :=
  ⟨abandoned, fun granted => (refused granted).elim, fun _ => reports⟩

/-- The caller gives a request up. -/
theorem Answers.giveUp (waiter : Waiter) :
    Answers waiter { waiter with abandoned := true, state := .cancelling } :=
  .of_not_granted (fun _ => rfl) (by simp) (by simp [Waiter.Reports])

/-- A waiter that was given up without a lease stays so. -/
theorem Answers.spent {old waiter : Waiter} (answers : Answers old waiter)
    (spent : old.abandoned = true ∧ old.state ≠ .granted) :
    waiter.abandoned = true ∧ waiter.state ≠ .granted := by
  refine ⟨answers.abandoned spent.1, fun granted => ?_⟩
  rcases answers.granted granted with before | kept
  · exact spent.2 before
  · rw [spent.1] at kept
    cases kept

namespace Passive

variable {state before middle after : TokenState cluster} {host : cluster.Host} {key : BlockKey}

theorem refl (inactive : state.Inactive) : Passive state state :=
  ⟨fun _ _ waiter found => ⟨waiter, found, .refl waiter⟩, inactive, fun _ => id⟩

theorem trans (first : Passive before middle) (second : Passive middle after) :
    Passive before after where
  waiters := by
    intro host requestId waiter found
    obtain ⟨between, betweenFound, later⟩ := second.waiters host requestId waiter found
    obtain ⟨old, oldFound, earlier⟩ := first.waiters host requestId between betweenFound
    refine ⟨old, oldFound, fun gone => later.abandoned (earlier.abandoned gone), fun granted => ?_,
      fun reports => later.reports (earlier.reports reports)⟩
    rcases later.granted granted with before_ | kept
    · exact earlier.granted before_
    · cases gone : old.abandoned with
      | false => exact .inr rfl
      | true =>
          rw [earlier.abandoned gone] at kept
          cases kept
  inactive := second.inactive
  epochs := fun key odd => first.epochs key (second.epochs key odd)

/-! ## Elementary changes -/

theorem setWaiter (inactive : state.Inactive) {requestId : Nat} {replacement : Option Waiter}
    (answers : ∀ waiter, replacement = some waiter →
      ∃ old, state.waiter host requestId = some old ∧ Answers old waiter) :
    Passive state (state.setWaiter host requestId replacement) where
  waiters := by
    intro other otherId waiter found
    rw [setWaiter_waiter] at found
    split at found
    · rename_i same
      obtain ⟨rfl, rfl⟩ := same
      exact answers waiter found
    · exact ⟨waiter, found, .refl waiter⟩
  inactive := ⟨by simpa using inactive.packets, by simpa using inactive.pending⟩
  epochs := fun _ => id

theorem dropWaiter (inactive : state.Inactive) (host : cluster.Host) (requestId : Nat) :
    Passive state (state.setWaiter host requestId none) :=
  setWaiter inactive (by simp)

theorem setLocal (inactive : state.Inactive) (host : cluster.Host)
    {object : LocalObject cluster}
    (pending : ∀ request ∈ object.pending, request.activateCoherenceEpoch = false) :
    Passive state (state.setLocal host key object) where
  waiters := by
    intro other requestId waiter found
    exact ⟨waiter, by simpa using found, .refl waiter⟩
  inactive := by
    refine ⟨by simpa using inactive.packets, fun other otherKey request member => ?_⟩
    rw [setLocal_localObject] at member
    split at member
    · exact pending request member
    · exact inactive.pending other otherKey request member
  epochs := fun _ => id

theorem setBlock (inactive : state.Inactive) {block : CoherenceBlockDescriptor cluster}
    (closed : block.writebackEpoch % 2 = 1 → (state.block key).writebackEpoch % 2 = 1) :
    Passive state (state.setBlock key block) where
  waiters := fun _ _ waiter found => ⟨waiter, found, .refl waiter⟩
  inactive := ⟨inactive.packets, inactive.pending⟩
  epochs := by
    intro other odd
    rw [setBlock_block] at odd
    split at odd
    · rename_i same
      rw [same]
      exact closed odd
    · exact odd

theorem publishRelease (inactive : state.Inactive) (host : cluster.Host) (key : BlockKey)
    (modified : Bool) : Passive state (state.publishRelease host key modified) := by
  refine setBlock inactive fun odd => ?_
  by_cases even : (state.block key).writebackEpoch % 2 = 0
  · rw [if_pos even] at odd
    cases modified with
    | false | true => exact odd
  · omega

theorem enqueueOutbound (inactive : state.Inactive) (host destination : cluster.Host)
    {packet : Packet cluster} (quiet : packet.Inactive) :
    Passive state (state.enqueueOutbound host destination packet).2 where
  waiters := by
    intro other requestId waiter found
    exact ⟨waiter, by simpa using found, .refl waiter⟩
  inactive := by
    refine ⟨fun source target other member => ?_, by simpa using inactive.pending⟩
    rw [enqueueOutbound_fifo] at member
    split at member
    · rcases List.mem_append.mp member with old | new
      · exact inactive.packets source target other old
      · rw [List.mem_singleton.mp new]
        exact quiet
    · exact inactive.packets source target other member
  epochs := by simp

theorem progressOutbound (inactive : state.Inactive) (host : cluster.Host) :
    Passive state (state.progressOutbound host).2 where
  waiters := by
    intro other requestId waiter found
    exact ⟨waiter, by simpa using found, .refl waiter⟩
  inactive := ⟨by simpa using inactive.packets, by simpa using inactive.pending⟩
  epochs := fun _ => id

theorem sendRequests (host destination : cluster.Host) {requests : List (TokenRequest cluster)}
    (quiet : ∀ request ∈ requests, request.activateCoherenceEpoch = false)
    (inactive : state.Inactive) :
    Passive state (TokenState.sendRequests host destination requests state).2 := by
  induction requests generalizing state with
  | nil => exact .refl inactive
  | cons request rest induction =>
      have sent : Passive state (state.sendRequest host destination request).2 :=
        enqueueOutbound inactive host destination (quiet request List.mem_cons_self)
      rw [TokenState.sendRequests_cons]
      split
      · exact sent.trans (induction
          (fun other member => quiet other (List.mem_cons_of_mem _ member)) sent.inactive)
      · exact sent

theorem handOff (inactive : state.Inactive) (host : cluster.Host) (key : BlockKey)
    {request : TokenRequest cluster} (quiet : request.activateCoherenceEpoch = false) :
    Passive state (state.handOff host key request).2 := by
  have moved : Passive state (state.setBlock key
      { state.block key with
        tokenEpoch := (state.block key).tokenEpoch + 1
        tokenOwner := request.requester }) :=
    setBlock inactive id
  have grant : (Packet.grant (state.handOffGrant key request)).Inactive := quiet
  have sent := moved.trans (enqueueOutbound moved.inactive host request.requester grant)
  have unqueued : ∀ request ∈ (LocalObject.fresh : LocalObject cluster).pending,
      request.activateCoherenceEpoch = false := by
    simp [LocalObject.fresh]
  simp only [TokenState.handOff]
  split
  · refine (sent.trans (setLocal sent.inactive host unqueued)).trans
      (sendRequests host request.requester (sent.inactive.pending host key) ?_)
    exact (setLocal sent.inactive host unqueued).inactive
  · exact sent

/-! ## Grants and releases -/

theorem completeGrant
    {releaseLate : TokenLease → TokenState cluster → Status × TokenState cluster}
    (late : ∀ lease state, state.Inactive → Passive state (releaseLate lease state).2)
    (inactive : state.Inactive) {requestId : Nat} {waiter : Waiter}
    (found : state.waiter host requestId = some waiter) (lease : TokenLease) :
    Passive state
      (TokenState.completeGrant releaseLate state host key requestId waiter lease).2 := by
  have owned : Passive state (state.setLocal host key
      { state.localObject host key with held := true, available := true }) :=
    setLocal inactive host (inactive.pending host key)
  have registered : (state.setLocal host key
      { state.localObject host key with held := true, available := true }).waiter host requestId =
        some waiter := by
    simpa using found
  simp only [TokenState.completeGrant]
  split
  · rename_i abandoned
    have completes : ∀ completed, (if waiter.retainCompletion = true then some
        { waiter with
          state := .cancelled
          completionStatus := .failedPrecondition "late token grant was cancelled" }
        else none) = some completed →
        ∃ old, (state.setLocal host key
          { state.localObject host key with held := true, available := true }).waiter host
            requestId = some old ∧ Answers old completed := by
      intro completed same
      split at same
      · obtain rfl := Option.some.inj same
        exact ⟨waiter, registered, .of_not_granted id (by simp) fun _ => rfl⟩
      · cases same
    have answered := setWaiter owned.inactive completes
    exact (owned.trans answered).trans (late lease _ answered.inactive)
  · rename_i kept
    refine owned.trans (setWaiter owned.inactive ?_)
    intro granted same
    obtain rfl := Option.some.inj same
    exact ⟨waiter, registered, id, fun _ => .inr (by simpa using kept),
      fun _ => by simp [Waiter.Reports]⟩

theorem activateIf_inactive (state : TokenState cluster) (key : BlockKey) {activate : Bool}
    (quiet : activate = false) : state.activateIf key activate = (.ok, state) := by
  rw [quiet]
  rfl

theorem grant {releaseLate : TokenLease → TokenState cluster → Status × TokenState cluster}
    (late : ∀ lease state, state.Inactive → Passive state (releaseLate lease state).2)
    (inactive : state.Inactive) {request : TokenRequest cluster}
    (quiet : request.activateCoherenceEpoch = false) :
    Passive state (TokenState.grant releaseLate state host key request).2 := by
  simp only [TokenState.grant]
  split
  · exact setLocal inactive host (inactive.pending host key)
  · split
    · split
      · exact .refl inactive
      · rename_i waiter found
        rw [activateIf_inactive state key quiet]
        exact completeGrant late inactive found _
    · exact handOff inactive host key quiet

/-- A release is refused, or it publishes and only answers afterwards. -/
theorem releasePending (host : cluster.Host) {pending : List (TokenRequest cluster)}
    (quiet : ∀ request ∈ pending, request.activateCoherenceEpoch = false) (lease : TokenLease)
    (modified : Bool) (inactive : state.Inactive) :
    ((state.leaseStatus host lease).isOk = false ∨
        modified = true ∧ (state.block lease.key).writebackEpoch % 2 = 0) ∧
      (TokenState.releasePending host pending lease modified state).2 = state ∨
    Passive (state.publishRelease host lease.key modified)
      (TokenState.releasePending host pending lease modified state).2 := by
  induction pending generalizing state lease modified with
  | nil =>
      have published := publishRelease inactive host lease.key modified
      rw [TokenState.releasePending]
      dsimp only
      split
      · rename_i refused
        exact .inl ⟨.inl (by simpa using refused), rfl⟩
      · split
        · rename_i closed
          exact .inl ⟨.inr closed, rfl⟩
        · right
          split
          · exact setLocal published.inactive host (by simp)
          · exact setLocal published.inactive host
              (published.inactive.pending host lease.key)
  | cons next rest induction =>
      have restQuiet : ∀ request ∈ rest, request.activateCoherenceEpoch = false :=
        fun request member => quiet request (List.mem_cons_of_mem _ member)
      have published := publishRelease inactive host lease.key modified
      rw [TokenState.releasePending]
      dsimp only
      split
      · rename_i refused
        exact .inl ⟨.inl (by simpa using refused), rfl⟩
      · split
        · rename_i closed
          exact .inl ⟨.inr closed, rfl⟩
        · right
          split
          · exact setLocal published.inactive host (by simp)
          · have popped : Passive (state.publishRelease host lease.key modified)
                ((state.publishRelease host lease.key modified).setLocal host lease.key
                  { (state.publishRelease host lease.key modified).localObject host lease.key with
                    pending := rest }) :=
              setLocal published.inactive host restQuiet
            refine popped.trans (grant ?_ popped.inactive (quiet next List.mem_cons_self))
            intro late state inactive
            rcases induction restQuiet late false inactive with ⟨-, same⟩ | passive
            · rw [same]
              exact .refl inactive
            · exact (publishRelease inactive host late.key false).trans passive

theorem release (inactive : state.Inactive) (host : cluster.Host) (lease : TokenLease)
    (modified : Bool) : Passive state (state.release host lease modified).2 := by
  rcases releasePending host (inactive.pending host lease.key) lease modified inactive with
    ⟨-, same⟩ | passive
  · rw [TokenState.release, same]
    exact .refl inactive
  · exact (publishRelease inactive host lease.key modified).trans passive

theorem release_closes (inactive : state.Inactive) {host : cluster.Host} {lease : TokenLease}
    (active : (state.leaseStatus host lease).isOk = true) :
    ((state.release host lease true).2.block lease.key).writebackEpoch % 2 = 0 := by
  rw [TokenState.release]
  rcases releasePending host (inactive.pending host lease.key) lease true inactive with
    ⟨stale | ⟨-, even⟩, same⟩ | passive
  · rw [active] at stale
    cases stale
  · rw [same]
    exact even
  · have even := state.publishRelease_even host lease.key true
    have closed := passive.epochs lease.key
    omega

/-! ## Handlers and operations -/

theorem handleReject (inactive : state.Inactive) (host : cluster.Host)
    (message : TokenReject cluster) : Passive state (state.handleReject host message).2 := by
  simp only [TokenState.handleReject]
  split
  · exact .refl inactive
  · split
    · exact .refl inactive
    · rename_i waiter found
      split
      · exact .refl inactive
      · refine setWaiter inactive fun completed same => ?_
        split at same
        · cases same
        · obtain rfl := Option.some.inj same
          refine ⟨waiter, found, .of_not_granted id ?_ fun _ => rfl⟩
          dsimp only
          split <;> simp

theorem handleCancelAck (inactive : state.Inactive) (host : cluster.Host)
    (message : TokenCancelAck cluster) : Passive state (state.handleCancelAck host message).2 := by
  simp only [TokenState.handleCancelAck]
  split
  · exact .refl inactive
  · split
    · exact .refl inactive
    · rename_i waiter found
      split
      · exact .refl inactive
      · refine setWaiter inactive fun completed same => ?_
        split at same
        · cases same
        · obtain rfl := Option.some.inj same
          exact ⟨waiter, found, .of_not_granted id (by simp) fun _ => rfl⟩

theorem reject (inactive : state.Inactive) (host : cluster.Host) (request : TokenRequest cluster)
    (reason : TokenCompletionReason) : Passive state (state.reject host request reason).2 := by
  simp only [TokenState.reject]
  split
  · exact handleReject inactive host _
  · exact enqueueOutbound inactive host _ trivial

theorem acknowledgeCancel (inactive : state.Inactive) (host : cluster.Host)
    (message : TokenCancel cluster) (reason : TokenCompletionReason) :
    Passive state (state.acknowledgeCancel host message reason).2 := by
  simp only [TokenState.acknowledgeCancel]
  split
  · exact handleCancelAck inactive host _
  · exact enqueueOutbound inactive host _ trivial

theorem handleCancel (inactive : state.Inactive) (host : cluster.Host)
    (message : TokenCancel cluster) : Passive state (state.handleCancel host message).2 := by
  simp only [TokenState.handleCancel]
  split
  · exact .refl inactive
  · split
    · exact acknowledgeCancel inactive host message .cancelled
    · split
      · exact enqueueOutbound inactive host _ trivial
      · have erased : Passive state (state.setLocal host message.key
            { state.localObject host message.key with
              pending := (state.localObject host message.key).pending.eraseP
                (TokenCancel.matches message) }) :=
          setLocal inactive host fun request member =>
            inactive.pending host message.key request (List.mem_of_mem_eraseP member)
        exact erased.trans (acknowledgeCancel erased.inactive host message _)

theorem sendCancel (inactive : state.Inactive) (host destination : cluster.Host)
    (message : TokenCancel cluster) :
    Passive state (state.sendCancel host destination message).2 := by
  simp only [TokenState.sendCancel]
  split
  · exact handleCancel inactive host message
  · exact enqueueOutbound inactive host _ trivial

theorem handleRequest (inactive : state.Inactive) (host : cluster.Host)
    {request : TokenRequest cluster} (quiet : request.activateCoherenceEpoch = false) :
    Passive state (state.handleRequest host request).2 := by
  simp only [TokenState.handleRequest]
  split
  · exact .refl inactive
  · split
    · exact reject inactive host request _
    · split
      · exact reject inactive host request _
      · split
        · exact reject inactive host request _
        · split
          · exact enqueueOutbound inactive host _ quiet
          · split
            · refine setLocal inactive host fun other member => ?_
              rcases List.mem_append.mp member with old | new
              · exact inactive.pending host request.key other old
              · rw [List.mem_singleton.mp new]
                exact quiet
            · have taken : Passive state (state.setLocal host request.key
                  { state.localObject host request.key with held := true }) :=
                setLocal inactive host (inactive.pending host request.key)
              exact taken.trans (grant
                (fun late state inactive => release inactive host late false) taken.inactive quiet)

theorem handleGrant (inactive : state.Inactive) (host : cluster.Host)
    {message : TokenGrant cluster} (quiet : message.activateCoherenceEpoch = false) :
    Passive state (state.handleGrant host message).2 := by
  simp only [TokenState.handleGrant]
  split
  · exact .refl inactive
  · split
    · exact handleReject inactive host _
    · split
      · exact .refl inactive
      · split
        · exact .refl inactive
        · rename_i waiter found
          rw [activateIf_inactive state message.key quiet]
          exact completeGrant (fun late state inactive => release inactive host late false)
            inactive found _

theorem handleMessage (inactive : state.Inactive) (host : cluster.Host) {packet : Packet cluster}
    (quiet : packet.Inactive) : Passive state (state.handleMessage host packet).2 := by
  cases packet with
  | request message =>
      simp only [TokenState.handleMessage]
      split
      · exact .refl inactive
      · exact handleRequest inactive host quiet
  | grant message =>
      simp only [TokenState.handleMessage]
      split
      · exact .refl inactive
      · exact handleGrant inactive host quiet
  | reject message =>
      simp only [TokenState.handleMessage]
      split
      · exact .refl inactive
      · exact handleReject inactive host message
  | cancel message =>
      simp only [TokenState.handleMessage]
      split
      · exact .refl inactive
      · exact handleCancel inactive host message
  | cancelAck message =>
      simp only [TokenState.handleMessage]
      split
      · exact .refl inactive
      · exact handleCancelAck inactive host message
  | application => exact .refl inactive

theorem deliver (inactive : state.Inactive) {source destination : cluster.Host}
    {packet : Packet cluster} (popped : state.pop source destination = some (packet, after)) :
    Passive state (after.handleMessage destination packet).2 := by
  obtain ⟨-, block, -⟩ := pop_eq_some popped
  have fifos : ∀ from_ to_ other, other ∈ after.fifo from_ to_ → other ∈ state.fifo from_ to_ := by
    intro from_ to_ other member
    by_cases same : from_ = source ∧ to_ = destination
    · obtain ⟨rfl, rfl⟩ := same
      rw [pop_fifo popped]
      exact List.mem_cons_of_mem _ member
    · rwa [pop_fifo_of_ne popped same] at member
  have head : packet ∈ state.fifo source destination := by
    rw [pop_fifo popped]
    exact List.mem_cons_self
  have removed : Passive state after := by
    refine ⟨fun host requestId waiter found => ?_, ⟨?_, ?_⟩, by simp [block]⟩
    · rw [pop_waiter popped] at found
      exact ⟨waiter, found, .refl waiter⟩
    · intro from_ to_ other member
      exact inactive.packets from_ to_ other (fifos from_ to_ other member)
    · intro host key request member
      rw [pop_localObject popped] at member
      exact inactive.pending host key request member
  exact removed.trans (handleMessage removed.inactive destination
    (inactive.packets source destination packet head))

theorem wait (inactive : state.Inactive) (host : cluster.Host) (handle : TokenRequestHandle) :
    Passive state (state.wait host handle).2 := by
  simp only [TokenState.wait]
  split
  · exact .refl inactive
  · rename_i waiter found
    cases phase : waiter.state with
    | granted | rejected | cancelled => exact dropWaiter inactive host handle.requestId
    | active | cancelling => exact .refl inactive

theorem cancel (inactive : state.Inactive) (host : cluster.Host) (handle : TokenRequestHandle) :
    Passive state (state.cancel host handle).2 := by
  have dropped := dropWaiter inactive host handle.requestId
  simp only [TokenState.cancel]
  split
  · exact .refl inactive
  · rename_i waiter found
    cases phase : waiter.state with
    | granted => exact dropped.trans (release dropped.inactive host waiter.lease false)
    | rejected | cancelled => exact dropped
    | active | cancelling =>
        have marked : Passive state (state.setWaiter host handle.requestId
            (some { waiter with abandoned := true, state := .cancelling })) := by
          refine setWaiter inactive fun completed same => ?_
          obtain rfl := Option.some.inj same
          exact ⟨waiter, found, .giveUp waiter⟩
        dsimp only
        split
        · exact marked.trans (dropWaiter marked.inactive host handle.requestId)
        · split
          · exact marked.trans (acknowledgeCancel marked.inactive host _ _)
          · exact marked.trans (sendCancel marked.inactive host _ _)

theorem cancelAndWait (inactive : state.Inactive) (host : cluster.Host)
    (handle : TokenRequestHandle) : Passive state (state.cancelAndWait host handle).2 := by
  simp only [TokenState.cancelAndWait]
  split
  · exact .refl inactive
  · rename_i waiter found
    have kept : Passive state (state.setWaiter host handle.requestId
        (some { waiter with retainCompletion := true })) := by
      refine setWaiter inactive fun completed same => ?_
      obtain rfl := Option.some.inj same
      exact ⟨waiter, found, id, .inl, id⟩
    exact kept.trans (cancel kept.inactive host handle)

theorem awaitCancel (inactive : state.Inactive) (host : cluster.Host)
    (handle : TokenRequestHandle) : Passive state (state.awaitCancel host handle).2 := by
  have dropped := dropWaiter inactive host handle.requestId
  simp only [TokenState.awaitCancel]
  split
  · exact .refl inactive
  · rename_i waiter found
    cases phase : waiter.state with
    | granted => exact dropped.trans (release dropped.inactive host waiter.lease false)
    | rejected | cancelled => exact dropped
    | active | cancelling => exact .refl inactive

/-- `Request` is refused without effect, or it only answers the waiter that it registers. -/
theorem request (inactive : state.Inactive) (host : cluster.Host) (key : BlockKey) :
    (state.request host key false).2 = state ∨
      Passive (state.issue host key.object) (state.request host key false).2 := by
  have issued : (state.issue host key.object).Inactive :=
    ⟨by simpa using inactive.packets, by simpa using inactive.pending⟩
  have registered : (state.issue host key.object).waiter host (state.service host).nextRequestId =
      some (freshWaiter key.object) := by
    simp [nextRequestId]
  simp only [TokenState.request]
  split
  · exact .inl rfl
  · right
    split
    · have quiet : (Packet.request
          { key := key
            requestId := (state.service host).nextRequestId
            observedVersion := (state.block key).version
            requester := host
            activateCoherenceEpoch := false }).Inactive := rfl
      have sent := enqueueOutbound issued host (state.block key).tokenOwner quiet
      split
      · exact sent
      · exact sent.trans (dropWaiter sent.inactive host _)
    · split
      · exact dropWaiter issued host _
      · split
        · refine setLocal issued host fun other member => ?_
          rcases List.mem_append.mp member with old | new
          · exact issued.pending host key other old
          · rw [List.mem_singleton.mp new]
        · have taken : Passive (state.issue host key.object)
              ((state.issue host key.object).setLocal host key
                { (state.issue host key.object).localObject host key with held := true }) :=
            setLocal issued host (issued.pending host key)
          rw [activateIf_inactive _ key rfl]
          refine taken.trans (setWaiter taken.inactive fun granted same => ?_)
          obtain rfl := Option.some.inj same
          exact ⟨freshWaiter key.object, by simpa using registered, id, fun _ => .inr rfl,
            fun _ => by simp [Waiter.Reports]⟩

end Passive

/-! ## Waiters that were given up -/

/-- The record of a request is gone, or it was given up without a lease. -/
def Spent (state : TokenState cluster) (host : cluster.Host) (requestId : Nat) : Prop :=
  ∀ waiter, state.waiter host requestId = some waiter →
    waiter.abandoned = true ∧ waiter.state ≠ .granted

variable {before after state : TokenState cluster} {host : cluster.Host} {requestId : Nat}

/-- A request that was given up never obtains a lease. -/
theorem Spent.mono (spent : before.Spent host requestId) (passive : Passive before after) :
    after.Spent host requestId := by
  intro waiter found
  obtain ⟨old, oldFound, answers⟩ := passive.waiters host requestId waiter found
  exact answers.spent (spent old oldFound)

theorem Spent.of_none (missing : state.waiter host requestId = none) :
    state.Spent host requestId := by
  intro waiter found
  rw [missing] at found
  cases found

theorem Spent.dropWaiter (state : TokenState cluster) (host : cluster.Host) (requestId : Nat) :
    (state.setWaiter host requestId none).Spent host requestId :=
  .of_none (by simp)

theorem Spent.grantedLease (spent : state.Spent host requestId) :
    grantedLease (state.waiter host requestId) = none := by
  cases found : state.waiter host requestId with
  | none => rfl
  | some waiter => simp [TokenState.grantedLease, (spent waiter found).2]

/-- After `Cancel` the request is given up. -/
theorem cancel_spent (inactive : state.Inactive) (host : cluster.Host)
    (handle : TokenRequestHandle) : (state.cancel host handle).2.Spent host handle.requestId := by
  have gone := Spent.dropWaiter state host handle.requestId
  have dropped := Passive.dropWaiter inactive host handle.requestId
  simp only [TokenState.cancel]
  split
  · rename_i missing
    exact .of_none missing
  · rename_i waiter found
    cases phase : waiter.state with
    | granted => exact gone.mono (.release dropped.inactive host waiter.lease false)
    | rejected | cancelled => exact gone
    | active | cancelling =>
        have marked : (state.setWaiter host handle.requestId
            (some { waiter with abandoned := true, state := .cancelling })).Spent host
              handle.requestId := by
          intro completed same
          obtain rfl : { waiter with abandoned := true, state := .cancelling } = completed := by
            simpa using same
          exact ⟨rfl, by simp⟩
        have passive : Passive state (state.setWaiter host handle.requestId
            (some { waiter with abandoned := true, state := .cancelling })) := by
          refine .setWaiter inactive fun completed same => ?_
          obtain rfl := Option.some.inj same
          exact ⟨waiter, found, .giveUp waiter⟩
        dsimp only
        split
        · exact .dropWaiter _ host handle.requestId
        · split
          · exact marked.mono (.acknowledgeCancel passive.inactive host _ _)
          · exact marked.mono (.sendCancel passive.inactive host _ _)

/-- After the first part of `CancelAndWait` the request is given up. -/
theorem cancelAndWait_spent (inactive : state.Inactive) (host : cluster.Host)
    (handle : TokenRequestHandle) :
    (state.cancelAndWait host handle).2.Spent host handle.requestId := by
  simp only [TokenState.cancelAndWait]
  split
  · rename_i missing
    exact .of_none missing
  · rename_i waiter found
    refine cancel_spent (Passive.inactive (Passive.setWaiter inactive ?_)) host handle
    intro completed same
    obtain rfl := Option.some.inj same
    exact ⟨waiter, found, id, .inl, id⟩

theorem publishApplication_passive (inactive : state.Inactive) (source destination : cluster.Host) :
    Passive state (TokenConfig.publishApplication state source destination) := by
  refine ⟨fun _ _ waiter found => ⟨waiter, found, .refl waiter⟩, ⟨?_, inactive.pending⟩,
    fun _ => id⟩
  intro from_ to_ packet member
  rcases TokenConfig.publishApplication_fifo state source destination from_ to_ with
    same | ⟨front, back, old, new⟩
  · rw [same] at member
    exact inactive.packets from_ to_ packet member
  · have earlier := inactive.packets from_ to_
    rw [new] at member
    rw [old] at earlier
    by_cases application : packet = .application
    · rw [application]
      trivial
    · exact earlier packet (by simpa [application] using member)

end TokenState

namespace TokenConfig

variable {config next : TokenConfig cluster} {op : TokenOp cluster} {status : Status}

/-- Actions other than `Request` and `BeginWriteback` register no waiter and open no epoch. -/
theorem step_passive (inactive : config.state.Inactive)
    (performed : config.step op = some (status, next))
    (requests : ∀ host key activate, op ≠ .request host key activate)
    (begins : ∀ host lease, op ≠ .beginWriteback host lease) :
    TokenState.Passive config.state next.state := by
  cases step_effect performed with
  | requested host key activate
  | requestFailed host key activate => exact (requests host key activate rfl).elim
  | beganWriteback host lease => exact (begins host lease rfl).elim
  | waited host requestId key
  | waitFailed host requestId key => exact .wait inactive host ⟨key, requestId⟩
  | cancelled host requestId key => exact .cancel inactive host ⟨key, requestId⟩
  | cancelledAndWaited host requestId key => exact .cancelAndWait inactive host ⟨key, requestId⟩
  | awaitedCancel host requestId key => exact .awaitCancel inactive host ⟨key, requestId⟩
  | released host requestId modified lease => exact .release inactive host lease modified
  | progressed host => exact .progressOutbound inactive host
  | published source destination =>
      exact TokenState.publishApplication_passive inactive source destination
  | delivered source destination packet after popped => exact .deliver inactive popped

/-- A lease of the table is active at its host. -/
theorem leaseStatus_of_leased (inv : config.NamedInv) {host : cluster.Host} {requestId : Nat}
    {lease : TokenLease} (found : config.leased host requestId = some lease) :
    config.state.leaseStatus host lease = .ok :=
  ((inv.token.busy_of_caller host found).presented rfl rfl).leaseStatus
    (inv.names.drawn host requestId lease.key (inv.leases host requestId lease found)).1

end TokenConfig
end Cxloom.LoomMem
