import Cxloom.LoomMem.TokenBlocks
import Cxloom.LoomMem.TokenClose

/-!
# Leases presented after their release

`BeginWriteback` and `Release` judge a lease by the owner, the ownership epoch and the local use
flag.  A handoff moves the epoch, so a released lease stays refused after one.  A grant to another
request of the owner itself does not move it, and the released lease is accepted again.  An object
that was freed is not found, and a new object at its address begins with the first epoch again.
-/

namespace Cxloom.LoomMem.TokenState

variable {cluster : Cluster} {state before middle after : TokenState cluster}
  {leased : cluster.Host → Nat → Option TokenLease} {host : cluster.Host} {key other : BlockKey}
  {tokenEpoch : Nat}

def AtRest (state : TokenState cluster) (key : BlockKey) : Prop :=
  (state.localObject (state.block key).tokenOwner key).available = true ∧
    (state.localObject (state.block key).tokenOwner key).held = false

/-- No lease of this epoch is valid, now or after further handoffs. -/
def Dormant (state : TokenState cluster) (key : BlockKey) (tokenEpoch : Nat) : Prop :=
  tokenEpoch < (state.block key).tokenEpoch ∨
    tokenEpoch = (state.block key).tokenEpoch ∧ state.AtRest key

/-- The epoch moved on, or it did not and a token at rest stays at rest. -/
def Quiet (key : BlockKey) (before after : TokenState cluster) : Prop :=
  (before.block key).tokenEpoch < (after.block key).tokenEpoch ∨
    (before.block key).tokenEpoch = (after.block key).tokenEpoch ∧
      (before.AtRest key → after.AtRest key)

theorem Dormant.quiet (dormant : before.Dormant key tokenEpoch) (quiet : Quiet key before after) :
    after.Dormant key tokenEpoch := by
  rcases dormant with older | ⟨rfl, rest⟩
  · rcases quiet with moved | ⟨same, -⟩
    · exact .inl (older.trans moved)
    · exact .inl (same ▸ older)
  · rcases quiet with moved | ⟨same, kept⟩
    · exact .inl moved
    · exact .inr ⟨same, kept rest⟩

namespace Quiet

theorem refl (state : TokenState cluster) : Quiet key state state := .inr ⟨rfl, id⟩

theorem trans (first : Quiet key before middle) (second : Quiet key middle after) :
    Quiet key before after := by
  rcases first with moved | ⟨same, kept⟩
  · rcases second with later | ⟨same, -⟩
    · exact .inl (moved.trans later)
    · exact .inl (same ▸ moved)
  · rcases second with later | ⟨same', kept'⟩
    · exact .inl (same ▸ later)
    · exact .inr ⟨same.trans same', fun rest => kept' (kept rest)⟩

/-- Only the sidecar and the two flags of the block matter. -/
theorem congr (block : after.block key = before.block key)
    (available : ∀ host,
      (after.localObject host key).available = (before.localObject host key).available)
    (held : ∀ host, (after.localObject host key).held = (before.localObject host key).held) :
    Quiet key before after := by
  refine .inr ⟨by rw [block], fun rest => ?_⟩
  simpa only [AtRest, block, available, held] using rest

/-- A token that is not at rest may do anything that does not take the epoch back. -/
theorem of_busy (busy : ¬before.AtRest key)
    (order : (before.block key).tokenEpoch ≤ (after.block key).tokenEpoch) :
    Quiet key before after := by
  rcases Nat.lt_or_eq_of_le order with moved | same
  · exact .inl moved
  · exact .inr ⟨same, fun rest => (busy rest).elim⟩

theorem setWaiter (requestId : Nat) (replacement : Option Waiter) :
    Quiet key state (state.setWaiter host requestId replacement) :=
  congr rfl (by simp) (by simp)

theorem enqueueOutbound (destination : cluster.Host) (packet : Packet cluster) :
    Quiet key state (state.enqueueOutbound host destination packet).2 :=
  congr (by simp) (by simp) (by simp)

theorem progressOutbound : Quiet key state (state.progressOutbound host).2 :=
  congr (by simp) (by simp) (by simp)

/-- Changing a pending queue. -/
theorem setPending (pending : List (TokenRequest cluster)) :
    Quiet key state
      (state.setLocal host other { state.localObject host other with pending := pending }) := by
  refine congr rfl (fun owner => ?_) fun owner => ?_ <;>
  · rw [setLocal_localObject]
    split
    · rename_i same
      obtain ⟨rfl, rfl⟩ := same
      rfl
    · rfl

theorem handleReject (message : TokenReject cluster) :
    Quiet key state (state.handleReject host message).2 := by
  simp only [TokenState.handleReject]
  split
  · exact .refl state
  · split
    · exact .refl state
    · split
      · exact .refl state
      · exact .setWaiter message.requestId _

theorem handleCancelAck (message : TokenCancelAck cluster) :
    Quiet key state (state.handleCancelAck host message).2 := by
  simp only [TokenState.handleCancelAck]
  split
  · exact .refl state
  · split
    · exact .refl state
    · split
      · exact .refl state
      · exact .setWaiter message.requestId _

theorem reject (request : TokenRequest cluster) (reason : TokenCompletionReason) :
    Quiet key state (state.reject host request reason).2 := by
  simp only [TokenState.reject]
  split
  · exact .handleReject _
  · exact .enqueueOutbound _ _

theorem acknowledgeCancel (message : TokenCancel cluster) (reason : TokenCompletionReason) :
    Quiet key state (state.acknowledgeCancel host message reason).2 := by
  simp only [TokenState.acknowledgeCancel]
  split
  · exact .handleCancelAck _
  · exact .enqueueOutbound _ _

theorem handleCancel (message : TokenCancel cluster) :
    Quiet key state (state.handleCancel host message).2 := by
  simp only [TokenState.handleCancel]
  split
  · exact .refl state
  · split
    · exact .acknowledgeCancel message .cancelled
    · split
      · exact .enqueueOutbound _ _
      · exact (Quiet.setPending _).trans (.acknowledgeCancel message _)

theorem sendCancel (destination : cluster.Host) (message : TokenCancel cluster) :
    Quiet key state (state.sendCancel host destination message).2 := by
  simp only [TokenState.sendCancel]
  split
  · exact .handleCancel message
  · exact .enqueueOutbound _ _

theorem pop {source destination : cluster.Host} {packet : Packet cluster}
    (popped : state.pop source destination = some (packet, after)) : Quiet key state after :=
  congr (by rw [(pop_eq_some popped).2.1]) (by simp [pop_localObject popped])
    (by simp [pop_localObject popped])

end Quiet

/-! ## Serving a queue -/

/-- Serving a queue ends at a request of the host itself, with a grant or, if `orphaned`, without a
waiter. -/
def TakenLocally (host : cluster.Host) (orphaned : Bool) :
    List (TokenRequest cluster) → (Nat → Option Waiter) → Bool
  | [], _ => false
  | next :: rest, waiters =>
      if next.requester ≠ host then false
      else
        match waiters next.requestId with
        | none => orphaned
        | some waiter =>
            if waiter.abandoned then
              TakenLocally host orphaned rest
                (Function.update waiters next.requestId (lateWaiter waiter))
            else true

theorem opened_block (state : TokenState cluster) (host : cluster.Host) (key : BlockKey)
    (request : TokenRequest cluster) (rest : List (TokenRequest cluster)) :
    ((state.opened host key request rest).block key).tokenOwner = (state.block key).tokenOwner ∧
      ((state.opened host key request rest).block key).tokenEpoch =
        (state.block key).tokenEpoch ∧
      ∀ other, other ≠ key →
        (state.opened host key request rest).block other = state.block other := by
  obtain ⟨epoch, changed⟩ := (state.setLocal host key
    { state.localObject host key with pending := rest }).activateIf_eq_setBlock key
      request.activateCoherenceEpoch
  refine ⟨by simp [opened, changed], by simp [opened, changed], fun other apart => ?_⟩
  simp [opened, changed, apart]

/-- Serving a queue that no local request takes leaves no valid lease of the present epoch. -/
theorem Served.dormant {pending : List (TokenRequest cluster)}
    {result : Status × TokenState cluster} (served : Served host key pending state result)
    (owner : (state.block key).tokenOwner = host)
    (available : (state.localObject host key).available = true)
    (bound : tokenEpoch ≤ (state.block key).tokenEpoch) {orphaned : Bool}
    (orphans : orphaned = true ∨ result.1.isOk = true)
    (foreign : TakenLocally host orphaned pending (state.waiter host) = false) :
    result.2.Dormant key tokenEpoch := by
  induction served with
  | rest state =>
      rcases Nat.lt_or_eq_of_le bound with older | same
      · exact .inl older
      · exact .inr ⟨same, by simp [AtRest, owner, available]⟩
  | orphan state next rest local_ missing =>
      -- a release that finds an orphan does not succeed
      rcases orphans with rfl | succeeded
      · simp [TakenLocally, local_, missing] at foreign
      · cases succeeded
  | granted state next rest waiter local_ found kept =>
      simp [TakenLocally, local_, found, kept] at foreign
  | late state next rest waiter result local_ found abandoned served induction =>
      have waiters : (((state.opened host key next rest).setWaiter host next.requestId
          (lateWaiter waiter)).publishRelease host key false).waiter host =
            Function.update (state.waiter host) next.requestId (lateWaiter waiter) := by
        funext requestId
        simp [opened, Function.update_apply]
      obtain ⟨openedOwner, openedEpoch, -⟩ := opened_block state host key next rest
      apply induction
      · rw [publishRelease_owner, setWaiter_block, openedOwner, owner]
      · simp [opened]
      · rw [publishRelease_epoch, setWaiter_block, openedEpoch]
        exact bound
      · exact orphans
      · rw [waiters]
        simpa [TakenLocally, local_, found, abandoned] using foreign
  | handedOff state next rest remote =>
      refine .inl ?_
      rw [handOff_block, if_pos rfl]
      exact Nat.lt_succ_of_le bound

/-- Serving a queue never takes an epoch back. -/
theorem Served.epoch_le {pending : List (TokenRequest cluster)}
    {result : Status × TokenState cluster} (served : Served host key pending state result) :
    (state.block key).tokenEpoch ≤ (result.2.block key).tokenEpoch := by
  induction served with
  | rest | orphan => exact Nat.le_refl _
  | granted state next rest =>
      rw [setWaiter_block, (opened_block state host key next rest).2.1]
  | late state next rest waiter result local_ found abandoned served induction =>
      rwa [publishRelease_epoch, setWaiter_block,
        (opened_block state host key next rest).2.1] at induction
  | handedOff state next rest =>
      rw [handOff_block, if_pos rfl]
      exact Nat.le_succ _

/-- Serving the queue of a block leaves the other blocks alone. -/
theorem Served.elsewhere {pending : List (TokenRequest cluster)}
    {result : Status × TokenState cluster} (served : Served host key pending state result)
    (empty : state.SelfQueuesEmpty) (apart : other ≠ key) : Quiet other state result.2 := by
  induction served with
  | rest state => exact .congr rfl (by simp [apart]) (by simp [apart])
  | orphan state next rest => exact .setPending _
  | granted state next rest =>
      refine .congr ?_ (by simp [opened, apart]) (by simp [opened, apart])
      rw [setWaiter_block, (opened_block state host key next rest).2.2 other apart]
  | late state next rest waiter result local_ found abandoned served induction =>
      have opens : ((state.opened host key next rest).setWaiter host next.requestId
          (lateWaiter waiter)).SelfQueuesEmpty := by
        intro owner
        simpa [opened] using empty owner
      refine Quiet.trans (.congr ?_ (by simp [opened, apart]) (by simp [opened, apart]))
        (induction (opens.setBlock key _))
      simp only [publishRelease, setBlock_block, if_neg apart, setWaiter_block]
      exact (opened_block state host key next rest).2.2 other apart
  | handedOff state next rest remote =>
      have popped := empty.setLocal host key { state.localObject host key with pending := rest }
      refine Quiet.congr ?_ ?_ ?_
      · simp [apart]
      · simp [(handOff_spec key popped remote).2.2.1, apart]
      · simp [(handOff_spec key popped remote).2.2.1, apart]

/-! ## Handlers and operations -/

namespace Quiet

/-- A sidecar update that keeps owner and epoch. -/
theorem setBlock {block : CoherenceBlockDescriptor cluster}
    (owner : block.tokenOwner = (state.block other).tokenOwner)
    (epoch : block.tokenEpoch = (state.block other).tokenEpoch) :
    Quiet key state (state.setBlock other block) := by
  by_cases same : key = other
  · subst same
    exact .inr ⟨by simp [epoch], fun rest => by simpa [AtRest, owner] using rest⟩
  · exact .congr (by simp [same]) (by simp) (by simp)

theorem activateIf (activate : Bool) : Quiet key state (state.activateIf other activate).2 := by
  obtain ⟨writebackEpoch, changed⟩ := state.activateIf_eq_setBlock other activate
  rw [changed]
  exact .setBlock rfl rfl

theorem publishRelease (modified : Bool) :
    Quiet key state (state.publishRelease host other modified) := by
  obtain ⟨block, changed, owner, epoch, -⟩ := state.publishRelease_eq_setBlock host other modified
  rw [changed]
  exact .setBlock owner epoch

/-- A local update of a block whose token is not at rest. -/
theorem setLocal (busy : ¬state.AtRest other) (object : LocalObject cluster) :
    Quiet key state (state.setLocal host other object) := by
  by_cases same : key = other
  · subst same
    exact .of_busy busy (Nat.le_refl _)
  · exact .congr rfl (by simp [same]) (by simp [same])

end Quiet

theorem BusyAt.not_atRest (busy : state.BusyAt leased host key tokenEpoch) :
    ¬state.AtRest key := by
  rintro ⟨-, free⟩
  rw [busy.owner, busy.held] at free
  cases free

theorem BusyAt.release_quiet (busy : state.BusyAt leased host key tokenEpoch)
    {lease : TokenLease} (leaseKey : lease.key = key) (epoch : lease.tokenEpoch = tokenEpoch)
    (modified : Bool) : Quiet other state (state.release host lease modified).2 := by
  by_cases refused : (state.leaseStatus host lease).isOk = false ∨
      modified = true ∧ (state.block lease.key).writebackEpoch % 2 = 0
  · rw [(release_refused refused).1]
    exact .refl state
  · obtain ⟨accepted, odd⟩ : (state.leaseStatus host lease).isOk = true ∧
        (modified = true → (state.block lease.key).writebackEpoch % 2 = 1) := by
      simpa using refused
    obtain rfl := leaseKey
    have live := busy.inv.allLive.live_of_leaseStatus accepted
    have served := releasePending_served (state.localObject host lease.key).pending live
      (busy.presented rfl epoch) odd (busy.inv.pendingKeys host lease.key)
    have published := busy.publishRelease modified
    have opened : Quiet other state (state.publishRelease host lease.key modified) :=
      .publishRelease modified
    refine opened.trans ?_
    by_cases same : other = lease.key
    · subst same
      exact .of_busy published.not_atRest served.epoch_le
    · exact served.elsewhere published.inv.selfQueues same

/-- A release that no local request takes leaves its lease without effect. -/
theorem BusyAt.release_dormant (busy : state.BusyAt leased host key tokenEpoch)
    {lease : TokenLease} (leaseKey : lease.key = key) (epoch : lease.tokenEpoch = tokenEpoch)
    {modified : Bool} (released : (state.release host lease modified).1.isOk = true)
    (foreign : TakenLocally host false (state.localObject host key).pending (state.waiter host) =
      false) :
    state.Live key ∧ (state.release host lease modified).2.Dormant key tokenEpoch := by
  have admitted : ¬((state.leaseStatus host lease).isOk = false ∨
      modified = true ∧ (state.block lease.key).writebackEpoch % 2 = 0) := by
    intro refused
    rw [(release_refused refused).2] at released
    cases released
  obtain ⟨accepted, odd⟩ : (state.leaseStatus host lease).isOk = true ∧
      (modified = true → (state.block lease.key).writebackEpoch % 2 = 1) := by
    simpa using admitted
  obtain rfl := leaseKey
  have live := busy.inv.allLive.live_of_leaseStatus accepted
  have served := releasePending_served (state.localObject host lease.key).pending live
    (busy.presented rfl epoch) odd (busy.inv.pendingKeys host lease.key)
  have published := busy.publishRelease modified
  exact ⟨live, served.dormant published.owner published.available (published.epoch ▸ Nat.le_refl _)
    (.inr released) (by simpa using foreign)⟩

section Operations

variable (inv : state.TokenInv leased)

include inv

/-- Handling a request leaves a dormant epoch dormant unless it grants to its own host. -/
theorem Dormant.handleRequest (dormant : state.Dormant key tokenEpoch)
    (request : TokenRequest cluster)
    (foreign : request.key = key → (state.block key).tokenEpoch = tokenEpoch →
      (state.block key).tokenOwner = host →
      TakenLocally host true (request :: (state.localObject host key).pending)
        (state.waiter host) = false) :
    (state.handleRequest host request).2.Dormant key tokenEpoch := by
  simp only [TokenState.handleRequest]
  split
  · exact dormant
  · split
    · exact dormant.quiet (.reject request _)
    · rename_i found
      split
      · exact dormant.quiet (.reject request _)
      · split
        · exact dormant.quiet (.reject request _)
        · split
          · exact dormant.quiet (.enqueueOutbound _ _)
          · rename_i owner
            have owned : (state.block request.key).tokenOwner = host := by simpa using owner
            have live := inv.allLive.live_of_target (by simpa using found)
            split
            · exact dormant.quiet (.setPending _)
            · rename_i free
              obtain ⟨phase, at_⟩ := inv.phases request.key
              obtain ⟨available, notHeld⟩ : (state.localObject host request.key).available = true ∧
                  ¬(state.localObject host request.key).held = true := by
                simpa [not_or] using free
              obtain ⟨rfl, named⟩ := at_.idle_of_available available notHeld
              have busy := inv.take host at_ named
              have served := grant_release_served (state.setLocal host request.key
                { state.localObject host request.key with held := true }) request
                (live.congr rfl) rfl (at_.even rfl) busy.owner
                (busy.inv.pendingKeys host request.key)
              by_cases same : key = request.key
              · subst same
                rcases dormant with older | ⟨rfl, -⟩
                · exact .inl (older.trans_le served.epoch_le)
                · have waiters : (state.setLocal host request.key
                      { state.localObject host request.key with held := true }).waiter host =
                        state.waiter host := by
                    funext requestId
                    simp
                  refine served.dormant busy.owner busy.available (Nat.le_refl _) (.inl rfl) ?_
                  rw [waiters]
                  simpa using foreign rfl rfl owned
              · refine dormant.quiet (.trans ?_ (served.elsewhere busy.inv.selfQueues same))
                exact .congr rfl (by simp [same]) (by simp [same])

/-- A request is quiet where its own host does not own the token. -/
theorem Dormant.request (dormant : state.Dormant key tokenEpoch) (requested : BlockKey)
    (activate : Bool)
    (foreign : requested = key → (state.block key).tokenEpoch = tokenEpoch →
      (state.block key).tokenOwner ≠ host) :
    (state.request host requested activate).2.Dormant key tokenEpoch := by
  have issued : (state.issue host requested.object).Dormant key tokenEpoch :=
    dormant.quiet (.congr rfl (by simp) (by simp))
  simp only [TokenState.request]
  split
  · exact dormant
  · split
    · have sent : ∀ packet, ((state.issue host requested.object).enqueueOutbound host
          (state.block requested).tokenOwner packet).2.Dormant key tokenEpoch :=
        fun packet => issued.quiet (.enqueueOutbound _ packet)
      split
      · exact sent _
      · exact (sent _).quiet (.setWaiter _ none)
    · rename_i owner
      split
      · exact issued.quiet (.setWaiter _ none)
      · split
        · exact issued.quiet (.setPending _)
        · rename_i free
          have taken : ((((state.issue host requested.object).setLocal host requested
              { (state.issue host requested.object).localObject host requested with
                held := true }).activateIf requested activate).2).Dormant key tokenEpoch := by
            refine Dormant.quiet ?_ (.activateIf activate)
            by_cases same : requested = key
            · subst same
              rcases issued with older | ⟨rfl, -⟩
              · exact .inl older
              · exact (foreign rfl rfl (by simpa using owner)).elim
            · exact issued.quiet
                (.congr rfl (by simp [Ne.symm same]) (by simp [Ne.symm same]))
          split
          · exact taken.quiet (.setWaiter _ _)
          · rename_i refused
            obtain ⟨phase, at_⟩ := inv.phases requested
            obtain ⟨available, notHeld⟩ : (state.localObject host requested).available = true ∧
                ¬(state.localObject host requested).held = true := by
              simpa [not_or] using free
            obtain ⟨rfl, -⟩ := at_.idle_of_available available notHeld
            exact (refused (by
              rw [activateIf_of_even _ _ _ (by simpa using at_.even rfl)]; rfl)).elim

/-- Handling a grant whose packet was just popped. -/
theorem Quiet.handleGrant (message : TokenGrant cluster)
    (lost : state.TokenAt leased message.key .lost) :
    Quiet key state (state.handleGrant host message).2 := by
  have away : ¬state.AtRest message.key := by
    rintro ⟨available, -⟩
    obtain ⟨landed, -⟩ := (lost.available _).mp available
    cases landed
  simp only [TokenState.handleGrant]
  split
  · exact .refl state
  · split
    · exact .handleReject _
    · split
      · exact .refl state
      · rename_i matching
        obtain ⟨owner, epoch, version⟩ : (state.block message.key).tokenOwner = host ∧
            (state.block message.key).tokenEpoch = message.tokenEpoch ∧
            (state.block message.key).version = message.version := by
          simpa [not_or] using matching
        split
        · exact .refl state
        · rename_i waiter found
          rw [state.activateIf_of_even message.key _ (lost.even rfl)]
          have busy := inv.land host lost owner.symm message.activateCoherenceEpoch
            { (state.activateIf message.key message.activateCoherenceEpoch).2.localObject
              host message.key with held := true, available := true } rfl rfl
            (by simpa using inv.pendingKeys host message.key)
          have still : ¬(state.activateIf message.key
              message.activateCoherenceEpoch).2.AtRest message.key := by
            obtain ⟨writebackEpoch, changed⟩ := state.activateIf_eq_setBlock message.key
              message.activateCoherenceEpoch
            rw [changed]
            simpa [AtRest] using away
          have landed : Quiet key state
              ((state.activateIf message.key message.activateCoherenceEpoch).2.setLocal host
                message.key
                { (state.activateIf message.key message.activateCoherenceEpoch).2.localObject
                  host message.key with held := true, available := true }) :=
            (Quiet.activateIf message.activateCoherenceEpoch).trans (.setLocal still _)
          simp only [Status.isOk_ok, if_true, completeGrant]
          split
          · have late : grantedLease (if waiter.retainCompletion then some
                { waiter with
                  state := .cancelled
                  completionStatus := .failedPrecondition "late token grant was cancelled" }
                else none) = none := by
              split <;> simp [grantedLease]
            have dropped := busy.clearWaiter host message.requestId late
            exact (landed.trans (.setWaiter _ _)).trans
              (dropped.release_quiet rfl epoch.symm false)
          · exact landed.trans (.setWaiter _ _)

theorem Quiet.cancel (handle : TokenRequestHandle) :
    Quiet key state (state.cancel host handle).2 := by
  simp only [TokenState.cancel]
  split
  · exact .refl state
  · rename_i waiter found
    cases phase : waiter.state with
    | granted =>
        have dropped : Quiet key state (state.setWaiter host handle.requestId none) :=
          .setWaiter handle.requestId none
        exact dropped.trans
          ((inv.busy_of_waiter host found phase none rfl).release_quiet rfl rfl false)
    | rejected | cancelled => exact .setWaiter handle.requestId none
    | active | cancelling =>
        have marked : Quiet key state (state.setWaiter host handle.requestId
            (some { waiter with abandoned := true, state := .cancelling })) :=
          .setWaiter handle.requestId _
        dsimp only
        split
        · exact marked.trans (.setWaiter handle.requestId none)
        · split
          · exact marked.trans (.acknowledgeCancel _ _)
          · exact marked.trans (.sendCancel _ _)

theorem Quiet.cancelAndWait (handle : TokenRequestHandle) :
    Quiet key state (state.cancelAndWait host handle).2 := by
  simp only [TokenState.cancelAndWait]
  split
  · exact .refl state
  · rename_i waiter found
    have marked : Quiet key state (state.setWaiter host handle.requestId
        (some { waiter with retainCompletion := true })) :=
      .setWaiter handle.requestId _
    refine marked.trans (.cancel (inv.keepWaiter host handle.requestId ?_) handle)
    simp [found, grantedLease]

theorem Quiet.awaitCancel (handle : TokenRequestHandle) :
    Quiet key state (state.awaitCancel host handle).2 := by
  simp only [TokenState.awaitCancel]
  split
  · exact .refl state
  · rename_i waiter found
    cases phase : waiter.state with
    | granted =>
        have dropped : Quiet key state (state.setWaiter host handle.requestId none) :=
          .setWaiter handle.requestId none
        exact dropped.trans
          ((inv.busy_of_waiter host found phase none rfl).release_quiet rfl rfl false)
    | rejected | cancelled => exact .setWaiter handle.requestId none
    | active | cancelling => exact .refl state

/-- Delivering a packet leaves a dormant epoch dormant unless it is a request that the destination
grants to itself. -/
theorem Dormant.deliver (dormant : state.Dormant key tokenEpoch)
    {source destination : cluster.Host} {packet : Packet cluster}
    (popped : state.pop source destination = some (packet, after))
    (foreign : ∀ request, packet = .request request → request.key = key →
      (state.block key).tokenEpoch = tokenEpoch → (state.block key).tokenOwner = destination →
      TakenLocally destination true (request :: (state.localObject destination key).pending)
        (state.waiter destination) = false) :
    (after.handleMessage destination packet).2.Dormant key tokenEpoch := by
  have inv' := inv.pop popped
  have dormant' := dormant.quiet (.pop popped)
  cases packet with
  | request message =>
      simp only [handleMessage, inv'.allLive.not_retiring]
      refine dormant'.handleRequest inv' message ?_
      rw [(pop_eq_some popped).2.1, pop_localObject popped, pop_waiter popped]
      exact foreign message rfl
  | grant message =>
      simp only [handleMessage, inv'.allLive.not_retiring]
      obtain ⟨phase, at_⟩ := inv.phases message.key
      exact dormant'.quiet (.handleGrant inv' message (at_.pop_grant popped rfl).2.2)
  | reject message =>
      simp only [handleMessage, inv'.allLive.not_retiring]
      exact dormant'.quiet (.handleReject message)
  | cancel message =>
      simp only [handleMessage, inv'.allLive.not_retiring]
      exact dormant'.quiet (.handleCancel message)
  | cancelAck message =>
      simp only [handleMessage, inv'.allLive.not_retiring]
      exact dormant'.quiet (.handleCancelAck message)
  | application => exact dormant'

end Operations

/-- `BeginWriteback` only opens a writeback epoch. -/
theorem Quiet.beginWriteback (lease : TokenLease) :
    Quiet key state (state.beginWriteback host lease).2 := by
  simp only [TokenState.beginWriteback]
  split
  · exact .activateIf true
  · exact .refl state

/-- `Wait` only drops the waiter. -/
theorem Quiet.wait (handle : TokenRequestHandle) :
    Quiet key state (state.wait host handle).2 := by
  simp only [TokenState.wait]
  split
  · exact .refl state
  · rename_i waiter found
    cases phase : waiter.state with
    | granted | rejected | cancelled => exact .setWaiter handle.requestId none
    | active | cancelling => exact .refl state

/-- A lease of a dormant epoch is refused everywhere. -/
theorem Dormant.leaseStatus {lease : TokenLease}
    (dormant : state.Dormant lease.key lease.tokenEpoch)
    (live : state.Live lease.key) (host : cluster.Host) :
    (state.leaseStatus host lease).code = .failedPrecondition := by
  simp only [TokenState.leaseStatus, live.target, Status.isOk_ok, not_true, if_false]
  split
  · rfl
  · rename_i current
    obtain ⟨owner, epoch⟩ : (state.block lease.key).tokenOwner = host ∧
        (state.block lease.key).tokenEpoch = lease.tokenEpoch := by
      simpa [not_or] using current
    rcases dormant with older | ⟨-, -, free⟩
    · omega
    · rw [owner] at free
      rw [if_pos (by simp [free])]
      rfl

end Cxloom.LoomMem.TokenState

namespace Cxloom.LoomMem.TokenConfig

variable {cluster : Cluster} {config next : TokenConfig cluster} {op : TokenOp cluster}
  {status : Status} {key : BlockKey} {tokenEpoch : Nat}

/-- The action grants a block, without a handoff, to a request of the host that owns it.  `reused`
tells the blocks whose present epoch had a lease released before; a release reuses the epoch of its
own lease. -/
def Regrants (config : TokenConfig cluster) (reused : BlockKey → Bool) : TokenOp cluster → Bool
  | .request host key _ => reused key ∧ (config.state.block key).tokenOwner = host
  | .release host requestId modified =>
      (config.leased host requestId).any fun lease =>
        ¬(modified ∧ (config.state.block lease.key).writebackEpoch % 2 = 0) ∧
          TokenState.TakenLocally host false (config.state.localObject host lease.key).pending
            (config.state.waiter host)
  | .deliver source destination =>
      match (config.state.channel source destination).packets.head? with
      | some (.request request) =>
          reused request.key ∧ (config.state.block request.key).tokenOwner = destination ∧
            TokenState.TakenLocally destination true
              (request :: (config.state.localObject destination request.key).pending)
              (config.state.waiter destination)
      | _ => false
  | .wait _ _ | .cancel _ _ | .cancelAndWait _ _ | .awaitCancel _ _ | .beginWriteback _ _
  | .progress _ | .publish _ _ => false

theorem step_dormant (inv : config.state.TokenInv config.leased)
    (performed : config.step op = some (status, next)) {reused : BlockKey → Bool}
    (handedOff : config.Regrants reused op = false)
    (dormant : config.state.Dormant key tokenEpoch)
    (known : (config.state.block key).tokenEpoch = tokenEpoch → reused key = true) :
    next.state.Dormant key tokenEpoch := by
  cases step_effect performed with
  | requested host requested activate | requestFailed host requested activate =>
      refine dormant.request inv requested activate ?_
      rintro rfl same owner
      simp [Regrants, known same, owner] at handedOff
  | waited | waitFailed => exact dormant.quiet (.wait _)
  | cancelled => exact dormant.quiet (.cancel inv _)
  | cancelledAndWaited => exact dormant.quiet (.cancelAndWait inv _)
  | awaitedCancel => exact dormant.quiet (.awaitCancel inv _)
  | beganWriteback => exact dormant.quiet (.beginWriteback _)
  | released host requestId modified lease found =>
      exact dormant.quiet ((inv.busy_of_caller host found).release_quiet rfl rfl modified)
  | progressed => exact dormant.quiet .progressOutbound
  | published =>
      refine dormant.quiet (.congr rfl (fun _ => ?_) fun _ => ?_)
      · rfl
      · rfl
  | delivered source destination packet after popped =>
      refine dormant.deliver inv popped ?_
      rintro request rfl rfl same owner
      have front : (config.state.channel source destination).packets.head? =
          some (.request request) := by
        rw [(TokenState.pop_eq_some popped).2.2.2.1, List.head?_cons]
      simpa [Regrants, front, known same, owner] using handedOff

end Cxloom.LoomMem.TokenConfig

namespace Cxloom.LoomMem

/-- A step in the life of an object. -/
inductive LifecycleOp (cluster : Cluster)
  /-- `Allocate`. -/
  | allocate (host : cluster.Host) (object : GlobalPointer) (blocks : Nat)
  /-- `RegisterAllocation`. -/
  | register (host : cluster.Host) (object : GlobalPointer)
  /-- `BeginRetire`. -/
  | retire (object : GlobalPointer)
  /-- `CloseObject`, which visits the waiters in some order. -/
  | close (host : cluster.Host) (object : GlobalPointer) (order : List Nat)
  | acknowledge (host : cluster.Host) (object : GlobalPointer)
  /-- `ForgetAllocation`. -/
  | forget (host : cluster.Host) (object : GlobalPointer)
  /-- `Free`. -/
  | free (object : GlobalPointer)
deriving DecidableEq

namespace TokenState

variable {cluster : Cluster}

def changeDescriptor (state : TokenState cluster) (object : GlobalPointer)
    (expected : AllocationState)
    (changed : AllocationDescriptor cluster) : TokenState cluster :=
  if object.regionId = 0 ∧ object.offset ≠ 0 ∧ (state.descriptor object).state = expected then
    { state with descriptor := Function.update state.descriptor object changed }
  else state

/-- Take a step in the life of an object, if its lifecycle state is the one the step needs. -/
def lifecycle (state : TokenState cluster) : LifecycleOp cluster → TokenState cluster
  | .allocate host object blocks =>
      let described := state.changeDescriptor object .empty
        { state := .allocated
          ownerHost := host
          coherenceBlockCount := blocks
          sealedHosts := 0#64
          activeOperations := fun _ => 0
          replicaHosts := 0#64 }
      if (state.descriptor object).state = .empty then
        { described with
          block := fun key =>
            if key.object = object ∧ key.blockIndex < blocks then ⟨host, 0, 1, 0, none⟩
            else state.block key }
      else state
  | .register host object => (state.registerAllocation host object).2
  | .retire object =>
      state.changeDescriptor object .allocated
        { state.descriptor object with state := .retiring }
  | .close host object order => (state.closeObject host object order).2
  | .acknowledge host object =>
      state.changeDescriptor object .retiring
        { state.descriptor object with
          sealedHosts := (state.descriptor object).sealedHosts ||| HostMask.bit host }
  | .forget host object => state.forgetAllocation host object
  | .free object =>
      state.changeDescriptor object .retiring { state.descriptor object with state := .empty }

end TokenState

/-- The services, their callers and the leases that were released with success. -/
structure LeaseWorld (cluster : Cluster) where
  /-- Services and callers. -/
  config : TokenConfig cluster
  /-- Leases whose `Release` returned `Ok`, latest first. -/
  released : List TokenLease

/-- An action of the services, a caller that presents a released lease again, or a step in the life
of an object. -/
inductive LeaseOp (cluster : Cluster)
  | service (op : TokenOp cluster)
  | releaseAgain (host : cluster.Host) (lease : TokenLease) (modified : Bool)
  | lifecycle (op : LifecycleOp cluster)
deriving DecidableEq

namespace LeaseWorld

variable {cluster : Cluster} {world : LeaseWorld cluster}

/-- The lease that an action presents to `Release`. -/
def presented (config : TokenConfig cluster) : TokenOp cluster → List TokenLease
  | .release host requestId _ => (config.leased host requestId).toList
  | _ => []

/-- Perform one action.  `BeginWriteback` may present any lease, a second `Release` any lease that
was released. -/
def next (world : LeaseWorld cluster) : LeaseOp cluster → Option (LeaseWorld cluster)
  | .service op =>
      (world.config.step op).map fun result =>
        { config := result.2
          released :=
            if result.1.isOk then presented world.config op ++ world.released
            else world.released }
  | .releaseAgain host lease modified =>
      if lease ∈ world.released then
        some
          { world with
            config := world.config.withState (world.config.state.release host lease modified).2 }
      else none
  | .lifecycle op =>
      some { world with config := world.config.withState (world.config.state.lifecycle op) }

def reused (world : LeaseWorld cluster) (key : BlockKey) : Bool :=
  world.released.any fun lease =>
    lease.key = key ∧ lease.tokenEpoch = (world.config.state.block key).tokenEpoch

/-- No action grants a block to its own host under an epoch that had a lease released, and objects
neither come nor go. -/
def HandsOff (world : LeaseWorld cluster) : LeaseOp cluster → Bool
  | .service op => !world.config.Regrants world.reused op
  | .releaseAgain _ _ _ => true
  | .lifecycle _ => false

/-- Nothing was released yet. -/
def initial (cluster : Cluster) (allocation : GlobalPointer → Option (cluster.Host × Nat)) :
    LeaseWorld cluster :=
  ⟨TokenConfig.initial cluster allocation, []⟩

/-- Runs of the actions that a predicate admits. -/
def ReachesBy (admitted : LeaseWorld cluster → LeaseOp cluster → Prop) :
    LeaseWorld cluster → LeaseWorld cluster → Prop :=
  Run.ReachesBy next admitted

/-- Every released lease is refused by every host, without effect. -/
def StaleRejected (world : LeaseWorld cluster) : Prop :=
  ∀ lease ∈ world.released, ∀ host : cluster.Host,
    ((world.config.state.beginWriteback host lease).1.code = .failedPrecondition ∧
      (world.config.state.beginWriteback host lease).2 = world.config.state) ∧
    ∀ modified,
      (world.config.state.release host lease modified).1.code = .failedPrecondition ∧
        (world.config.state.release host lease modified).2 = world.config.state

/-- Released leases are for issued blocks and dormant epochs. -/
structure LeaseInv (world : LeaseWorld cluster) : Prop where
  /-- Tokens, names and leases agree. -/
  named : world.config.NamedInv
  issued : ∀ lease ∈ world.released, ∃ host requestId,
    world.config.issued host requestId = some lease.key
  dormant : ∀ lease ∈ world.released, world.config.state.Dormant lease.key lease.tokenEpoch

theorem LeaseInv.refused (inv : world.LeaseInv) {lease : TokenLease}
    (member : lease ∈ world.released) (host : cluster.Host) :
    (world.config.state.leaseStatus host lease).code = .failedPrecondition := by
  obtain ⟨owner, requestId, found⟩ := inv.issued lease member
  exact (inv.dormant lease member).leaseStatus
    (inv.named.names.drawn owner requestId _ found).1 host

theorem LeaseInv.stale_rejected (inv : world.LeaseInv) : world.StaleRejected := by
  intro lease member host
  have code := inv.refused member host
  have refused : (world.config.state.leaseStatus host lease).isOk = false := by
    simp [Status.isOk, code]
  refine ⟨?_, fun modified => ⟨?_, (TokenState.release_refused (.inl refused)).1⟩⟩
  · simp [TokenState.beginWriteback, refused, code]
  · rw [TokenState.release, TokenState.releasePending]
    simp [refused, code]

/-- A release that succeeds without a local grant leaves its own lease without effect. -/
theorem LeaseInv.presented (inv : world.LeaseInv) {op : TokenOp cluster} {status : Status}
    {after : TokenConfig cluster} (performed : world.config.step op = some (status, after))
    (succeeded : status.isOk = true)
    (handedOff : world.config.Regrants world.reused op = false) :
    ∀ lease ∈ LeaseWorld.presented world.config op,
      (∃ host requestId, world.config.issued host requestId = some lease.key) ∧
        after.state.Dormant lease.key lease.tokenEpoch := by
  intro lease member
  cases TokenConfig.step_effect performed with
  | released host requestId modified lease' found =>
      obtain rfl : lease = lease' := by simpa [LeaseWorld.presented, found] using member
      refine ⟨⟨host, requestId, inv.named.leases host requestId lease found⟩, ?_⟩
      have busy := inv.named.token.busy_of_caller host found
      have admitted : ¬((world.config.state.leaseStatus host lease).isOk = false ∨
          modified = true ∧ (world.config.state.block lease.key).writebackEpoch % 2 = 0) := by
        intro refused
        rw [(TokenState.release_refused refused).2] at succeeded
        cases succeeded
      refine (busy.release_dormant rfl rfl succeeded ?_).2
      have odd :
        modified = false ∨ (world.config.state.block lease.key).writebackEpoch % 2 = 1 := by
        have closed := (not_or.mp admitted).2
        cases modified with
        | false => exact .inl rfl
        | true => exact .inr (by simpa using closed)
      have decided : (modified = false ∨
          (world.config.state.block lease.key).writebackEpoch % 2 = 1) →
            TokenState.TakenLocally host false
              (world.config.state.localObject host lease.key).pending
              (world.config.state.waiter host) = false := by
        simpa [TokenConfig.Regrants, found] using handedOff
      exact decided odd
  | requested | requestFailed | waited | waitFailed | cancelled | cancelledAndWaited
  | awaitedCancel | beganWriteback | progressed | published | delivered =>
      simp [LeaseWorld.presented] at member

/-- Every admitted action keeps released leases without effect. -/
theorem step_inv (inv : world.LeaseInv) {op : LeaseOp cluster} {after : LeaseWorld cluster}
    (handsOff : world.HandsOff op = true) (performed : world.next op = some after) :
    after.LeaseInv := by
  cases op with
  | service op =>
      obtain ⟨⟨status, config⟩, stepped, rfl⟩ := Option.map_eq_some_iff.mp performed
      have handedOff : world.config.Regrants world.reused op = false := by
        simpa [HandsOff] using handsOff
      have keeps : ∀ lease ∈ world.released,
          (∃ host requestId, config.issued host requestId = some lease.key) ∧
            config.state.Dormant lease.key lease.tokenEpoch := by
        intro lease member
        obtain ⟨host, requestId, found⟩ := inv.issued lease member
        refine ⟨⟨host, requestId, TokenConfig.step_issued inv.named stepped found⟩, ?_⟩
        refine TokenConfig.step_dormant inv.named.token stepped handedOff
          (inv.dormant lease member) fun current => ?_
        simp only [reused, List.any_eq_true, decide_eq_true_eq]
        exact ⟨lease, member, rfl, current.symm⟩
      have holds : ∀ lease ∈ (if status.isOk then presented world.config op ++ world.released
          else world.released),
          (∃ host requestId, config.issued host requestId = some lease.key) ∧
            config.state.Dormant lease.key lease.tokenEpoch := by
        intro lease member
        split at member
        · rename_i succeeded
          rcases List.mem_append.mp member with now | before
          · obtain ⟨⟨host, requestId, found⟩, dormant⟩ :=
              inv.presented stepped succeeded handedOff lease now
            exact ⟨⟨host, requestId, TokenConfig.step_issued inv.named stepped found⟩, dormant⟩
          · exact keeps lease before
        · exact keeps lease member
      exact ⟨TokenConfig.step_named inv.named stepped, fun lease member => (holds lease member).1,
        fun lease member => (holds lease member).2⟩
  | releaseAgain host lease modified =>
      simp only [next] at performed
      split at performed
      · rename_i member
        cases performed
        rw [((inv.stale_rejected lease member host).2 modified).2]
        exact ⟨inv.named, inv.issued, inv.dormant⟩
      · cases performed
  | lifecycle op => cases handsOff

theorem initial_inv (cluster : Cluster)
    (allocation : GlobalPointer → Option (cluster.Host × Nat)) :
    (initial cluster allocation).LeaseInv where
  named := TokenConfig.initial_named cluster allocation
  issued := by simp [initial]
  dormant := by simp [initial]

open TokenConfig in
/-- The owner takes and releases the token; then another host takes it, and the first lease is
presented again. -/
def handOffOps : List (LeaseOp threeHosts) :=
  [.service (.request host0 onlyBlock false), .service (.wait host0 1),
    .service (.release host0 1 false), .service (.request host1 onlyBlock false),
    .service (.deliver host1 host0), .service (.deliver host0 host1), .service (.wait host1 1),
    .releaseAgain host0 ⟨onlyBlock, 0, 1⟩ false]

def threeHostsInitial : LeaseWorld TokenConfig.threeHosts :=
  initial TokenConfig.threeHosts TokenConfig.firstOwns

end LeaseWorld
end Cxloom.LoomMem
