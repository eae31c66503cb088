import Cxloom.LoomMem.TokenCancellation

/-!
# Runs that lose no request

Two kinds of runs keep the second invariant of the token services: runs in which no cancellation
overtakes its request, and, as a special case, runs without cancellation.
-/

namespace Cxloom.LoomMem.TokenConfig

open TokenState (PlaceInv)

variable {cluster : Cluster}

/-- What the callers of a configuration remember. -/
def ledger (config : TokenConfig cluster) (cancels : Bool) : RequestLedger cluster :=
  ⟨config.issued, config.returned, cancels⟩

def headCancel (config : TokenConfig cluster) (source destination : cluster.Host) :
    Option (TokenCancel cluster) :=
  match config.state.pop source destination with
  | some (.cancel cancel, _) => some cancel
  | _ => none

theorem headCancel_eq_some {config : TokenConfig cluster} {source destination : cluster.Host}
    {cancel : TokenCancel cluster} :
    config.headCancel source destination = some cancel ↔
      ∃ after, config.state.pop source destination = some (.cancel cancel, after) := by
  unfold headCancel
  split
  · rename_i found after popped
    simp [popped]
  · rename_i other
    simp only [reduceCtorEq, false_iff, not_exists]
    exact fun after popped => other cancel after popped

def DoesNotOvertake (config : TokenConfig cluster) : TokenOp cluster → Prop
  | .deliver source destination =>
      ∀ cancel ∈ config.headCancel source destination,
        ¬config.state.Overtakes destination cancel
  | .request _ _ _ | .wait _ _ | .cancel _ _ | .cancelAndWait _ _ | .awaitCancel _ _
  | .beginWriteback _ _ | .release _ _ _ | .progress _ | .publish _ _ => True

instance (config : TokenConfig cluster) : (op : TokenOp cluster) →
    Decidable (config.DoesNotOvertake op)
  | .deliver source destination =>
      inferInstanceAs (Decidable (∀ cancel ∈ config.headCancel source destination,
        ¬config.state.Overtakes destination cancel))
  | .request _ _ _ | .wait _ _ | .cancel _ _ | .cancelAndWait _ _ | .awaitCancel _ _
  | .beginWriteback _ _ | .release _ _ _ | .progress _ | .publish _ _ => .isTrue trivial

/-- No caller cancels. -/
def DoesNotCancel (_ : TokenConfig cluster) : TokenOp cluster → Prop
  | .cancel _ _ | .cancelAndWait _ _ | .awaitCancel _ _ => False
  | .request _ _ _ | .wait _ _ | .beginWriteback _ _ | .release _ _ _ | .progress _
  | .publish _ _ | .deliver _ _ => True

instance (config : TokenConfig cluster) : (op : TokenOp cluster) →
    Decidable (config.DoesNotCancel op)
  | .cancel _ _ | .cancelAndWait _ _ | .awaitCancel _ _ => .isFalse id
  | .request _ _ _ | .wait _ _ | .beginWriteback _ _ | .release _ _ _ | .progress _
  | .publish _ _ | .deliver _ _ => .isTrue trivial

/-- The second invariant of a run. -/
structure SafeConfig (config : TokenConfig cluster) (cancels : Bool) : Prop where
  /-- The services keep their invariant. -/
  safe : config.state.SafeInv (config.ledger cancels) config.leased
  held : ∀ host requestId, (config.leased host requestId).isSome →
    (config.returned host requestId).isSome
  asked : ∀ host requestId, (config.returned host requestId).isSome →
    (config.issued host requestId).isSome

namespace SafeConfig

variable {config next : TokenConfig cluster} {cancels : Bool}

theorem withState (inv : config.SafeConfig cancels) {state : TokenState cluster}
    (safe : state.SafeInv (config.ledger cancels) config.leased) :
    (config.withState state).SafeConfig cancels :=
  ⟨safe, inv.held, inv.asked⟩

/-- The next identifier of a host was never returned. -/
theorem unreturned (inv : config.SafeConfig cancels) (host : cluster.Host) :
    config.returned host (config.state.nextRequestId host) = none := by
  by_contra returned
  have issued := inv.asked host _ (Option.isSome_iff_ne_none.mpr returned)
  obtain ⟨other, found⟩ := Option.isSome_iff_exists.mp issued
  exact (inv.safe.places.drawn host _ other found).2.2.ne rfl

theorem requested (inv : config.SafeConfig cancels) {host : cluster.Host} {key : BlockKey}
    {activate : Bool} {handle : TokenRequestHandle}
    (accepted : (config.state.request host key activate).1 = .ok handle) :
    SafeConfig
      { config with
        state := (config.state.request host key activate).2
        issued := updateEntry config.issued host handle.requestId (some handle.key) } cancels := by
  have live : config.state.Live key := by
    have found : (config.state.target host key false).isOk = true := by
      by_contra refused
      simp [TokenState.request, refused] at accepted
    exact inv.safe.token.allLive.live_of_target found
  obtain ⟨result, safe⟩ := inv.safe.request live activate (inv.unreturned host)
  obtain rfl : handle = ⟨key, config.state.nextRequestId host⟩ :=
    Except.ok.inj (accepted.symm.trans result)
  refine ⟨safe, inv.held, fun other requestId returned => ?_⟩
  by_cases same : other = host ∧ requestId = config.state.nextRequestId host
  · simp [same]
  · simpa [same] using inv.asked other requestId returned

theorem requestFailed (inv : config.SafeConfig cancels) {host : cluster.Host} {key : BlockKey}
    {activate : Bool} {status : Status}
    (refused : (config.state.request host key activate).1 = .error status) :
    (config.withState (config.state.request host key activate).2).SafeConfig cancels := by
  refine inv.withState ?_
  by_cases found : (config.state.target host key false).isOk = true
  · have live := inv.safe.token.allLive.live_of_target found
    have accepted := (inv.safe.request live activate (inv.unreturned host)).1
    rw [refused] at accepted
    cases accepted
  · have unchanged : (config.state.request host key activate).2 = config.state := by
      simp [TokenState.request, found]
    rw [unchanged]
    exact inv.safe

theorem waited (inv : config.SafeConfig cancels) {host : cluster.Host} (handle : TokenRequestHandle)
    {lease : TokenLease} (issued : config.issued host handle.requestId = some handle.key)
    (granted : (config.state.wait host handle).1 = .ok lease) :
    SafeConfig
      { config with
        state := (config.state.wait host handle).2
        returned := updateEntry config.returned host handle.requestId (some lease)
        leased := updateEntry config.leased host handle.requestId (some lease) } cancels := by
  obtain ⟨waiter, found, finished, sameLease, after⟩ := TokenState.wait_ok granted
  have fits := inv.safe.places.fits host handle.requestId handle.key issued
  rw [found] at fits
  have unleased : config.leased host handle.requestId = none := by
    by_contra leased
    have returned := inv.held host _ (Option.isSome_iff_ne_none.mpr leased)
    have open_ : config.returned host handle.requestId = none := fits.1
    simp [open_] at returned
  rw [← sameLease, after]
  refine ⟨inv.safe.wait found finished unleased, ?_, ?_⟩
  · intro other requestId held
    by_cases same : other = host ∧ requestId = handle.requestId
    · simp [same]
    · simpa [same] using inv.held other requestId (by simpa [same] using held)
  · intro other requestId returned
    by_cases same : other = host ∧ requestId = handle.requestId
    · simp [same, issued]
    · exact inv.asked other requestId (by simpa [same] using returned)

theorem waitFailed (inv : config.SafeConfig cancels) {host : cluster.Host}
    (handle : TokenRequestHandle) {status : Status}
    (issued : config.issued host handle.requestId = some handle.key)
    (failed : (config.state.wait host handle).1 = .error status) :
    (config.withState (config.state.wait host handle).2).SafeConfig cancels := by
  refine inv.withState ?_
  have fits := inv.safe.places.fits host handle.requestId handle.key issued
  simp only [TokenState.wait] at failed ⊢
  split
  · exact inv.safe
  · rename_i waiter found
    rw [found] at fits
    cases phase : waiter.state with
    | granted => simp [found, phase] at failed
    | rejected =>
        have cancels := (fits.of_settled (by simp [Settled, phase])).1
        exact inv.safe.dropWaiter cancels found (.inl phase)
    | cancelled =>
        have cancels := (fits.of_settled (by simp [Settled, phase])).1
        exact inv.safe.dropWaiter cancels found (.inr phase)
    | active | cancelling => exact inv.safe

theorem released (inv : config.SafeConfig cancels) {host : cluster.Host} {requestId : Nat}
    {lease : TokenLease} (found : config.leased host requestId = some lease) (modified : Bool) :
    SafeConfig
      { config with
        state := (config.state.release host lease modified).2
        leased :=
          if (config.state.release host lease modified).1.isOk then
            updateEntry config.leased host requestId none
          else config.leased } cancels := by
  have busy := inv.safe.busy_of_caller found
  rcases busy.release rfl rfl modified with ⟨-, refused, unchanged⟩ | ⟨accepted, safe⟩
  · simp only [refused, unchanged, Bool.false_eq_true, if_false]
    exact inv
  · simp only [accepted, Status.isOk_ok, if_true]
    refine ⟨safe, fun other otherId held => inv.held other otherId ?_, inv.asked⟩
    by_cases same : other = host ∧ otherId = requestId
    · simp [same] at held
    · simpa [same] using held

theorem published (inv : config.SafeConfig cancels) (source destination : cluster.Host) :
    (config.withState (publishApplication config.state source destination)).SafeConfig cancels := by
  have fifos := publishApplication_fifo config.state source destination
  refine inv.withState ⟨publishApplication_inv inv.safe.token source destination, ?_, fun key => ?_⟩
  · refine PlaceInv.recounted (inv.safe.places.congr rfl (fun _ => rfl) (fun _ => Nat.le_refl _)
      (fun _ _ => rfl) ?_ (fun _ _ _ member => .inl member)) ?_
    · intro from_ to_ packet member
      rcases fifos from_ to_ with same | ⟨before, behind, old, new⟩
      · exact .inl (same ▸ member)
      · rw [new, List.mem_append, List.mem_cons] at member
        rcases member with first | rfl | last
        · exact .inl (old ▸ List.mem_append_left _ first)
        · exact .inr trivial
        · exact .inl (old ▸ List.mem_append_right _ last)
    · intro key requester requestId
      have travels := TokenState.travelling_congr config.state
        (publishApplication config.state source destination) key requester requestId
        (fun from_ to_ => by
          rcases fifos from_ to_ with same | ⟨before, behind, old, new⟩
          · rw [same]
          · simp [old, new, Packet.isFor])
      rw [TokenState.places, travels]
      rfl
  · exact (inv.safe.steady key).congr rfl rfl (fun _ => rfl)
      (TokenState.leaseFor_congr _ key fun _ _ => rfl)
      (publishApplication_grantsFor config.state source destination key)

/-- Every action keeps the second invariant, and every delivered packet is handled. -/
theorem step (inv : config.SafeConfig cancels) {op : TokenOp cluster} {status : Status}
    (admits : config.DoesNotOvertake op) (mayCancel : cancels = false → config.DoesNotCancel op)
    (performed : config.step op = some (status, next)) :
    next.SafeConfig cancels ∧ (∀ source destination, op = .deliver source destination →
      status = .ok) := by
  have cancelling : ¬config.DoesNotCancel op → cancels = true := by
    intro cancelled
    by_contra never
    exact cancelled (mayCancel (by simpa using never))
  cases step_effect performed with
  | requested host key activate handle accepted => exact ⟨inv.requested accepted, by simp⟩
  | requestFailed host key activate status refused => exact ⟨inv.requestFailed refused, by simp⟩
  | waited host requestId key lease issued granted =>
      exact ⟨inv.waited ⟨key, requestId⟩ issued granted, by simp⟩
  | waitFailed host requestId key status issued failed =>
      exact ⟨inv.waitFailed ⟨key, requestId⟩ issued failed, by simp⟩
  | cancelled host requestId key issued =>
      exact ⟨inv.withState (inv.safe.cancel (cancelling id) ⟨key, requestId⟩ issued),
        by simp⟩
  | cancelledAndWaited host requestId key issued =>
      exact ⟨inv.withState (inv.safe.cancelAndWait (cancelling id) ⟨key, requestId⟩ issued),
        by simp⟩
  | awaitedCancel host requestId key issued =>
      exact ⟨inv.withState (inv.safe.awaitCancel (cancelling id) host ⟨key, requestId⟩), by simp⟩
  | beganWriteback host lease =>
      exact ⟨inv.withState (inv.safe.beginWriteback host lease), by simp⟩
  | released host requestId modified lease found => exact ⟨inv.released found modified, by simp⟩
  | progressed host => exact ⟨inv.withState (inv.safe.progressOutbound host), by simp⟩
  | published source destination => exact ⟨inv.published source destination, by simp⟩
  | delivered source destination packet after popped =>
      obtain ⟨accepted, safe⟩ := inv.safe.deliver popped (by
        rintro cancel rfl
        exact fun overtakes => admits cancel (headCancel_eq_some.mpr ⟨after, popped⟩)
          (overtakes.of_pop popped))
      exact ⟨inv.withState safe, fun _ _ _ => accepted⟩

end SafeConfig

/-- The second invariant holds after the allocations. -/
theorem initial_safe (cluster : Cluster)
    (allocation : GlobalPointer → Option (cluster.Host × Nat)) (cancels : Bool) :
    (initial cluster allocation).SafeConfig cancels where
  safe :=
    { token := initial_inv cluster allocation
      places :=
        { drawn := by simp [ledger, initial]
          unissued := by
            intro host requestId _
            refine ⟨rfl, fun key => ?_⟩
            simp [TokenState.places, TokenState.travelling, TokenState.queued, initial,
              TokenState.fifo, TokenState.localObject]
          fits := by simp [ledger, initial]
          packets := by simp [initial, TokenState.fifo]
          pending := by simp [initial, TokenState.localObject]
          positive := fun _ => Nat.one_pos }
      steady := by
        intro key
        obtain ⟨phase, kind, live, at_⟩ := initial_phase cluster allocation key
        refine ⟨phase, at_, ?_, by simp [initial, TokenState.localObject]⟩
        by_cases exists_ : (initial cluster allocation).state.Live key
        · exact .inl ⟨by rw [live exists_]; rfl, exists_⟩
        · exact .inr ⟨kind, exists_⟩ }
  held := by simp [initial]
  asked := by simp [initial]

theorem safe_of_reaches {allocation : GlobalPointer → Option (cluster.Host × Nat)}
    {config : TokenConfig cluster}
    (execution : ReachesBy DoesNotOvertake (initial cluster allocation) config) :
    config.SafeConfig true :=
  execution.preserves (fun config => config.SafeConfig true)
    (initial_safe cluster allocation true)
    (fun _ _ _ _ inv admits performed => (inv.step admits (by simp) performed).1)

/-- Without cancellation nothing can be overtaken. -/
theorem SafeConfig.doesNotOvertake {config : TokenConfig cluster} (inv : config.SafeConfig false)
    (op : TokenOp cluster) : config.DoesNotOvertake op := by
  cases op with
  | deliver source destination =>
      intro cancel head
      obtain ⟨after, popped⟩ := headCancel_eq_some.mp head
      have proper := inv.safe.places.packets source destination (.cancel cancel)
        (by simp [TokenState.pop_fifo popped])
      exact Bool.noConfusion proper.1
  | request | wait | cancel | cancelAndWait | awaitCancel | beginWriteback | release | progress
  | publish => trivial

theorem safe_of_doesNotCancel {allocation : GlobalPointer → Option (cluster.Host × Nat)}
    {config : TokenConfig cluster}
    (execution : ReachesBy DoesNotCancel (initial cluster allocation) config) :
    config.SafeConfig false :=
  execution.preserves (fun config => config.SafeConfig false)
    (initial_safe cluster allocation false)
    (fun _ op _ _ inv admits performed =>
      (inv.step (inv.doesNotOvertake op) (fun _ => admits) performed).1)

/-! ## No cancellation loses the token -/

/-- No token packet is under way, no request is outstanding and no lease is outstanding. -/
structure Quiescent (config : TokenConfig cluster) : Prop where
  /-- Only packets of other services are under way. -/
  packets : ∀ source destination packet, packet ∈ config.state.fifo source destination →
    packet = .application
  /-- Every registered request has an outcome. -/
  requests : ∀ host requestId waiter, config.state.waiter host requestId = some waiter →
    waiter.state ≠ .active ∧ waiter.state ≠ .cancelling
  leases : ∀ key holder, config.state.leaseFor config.leased key holder = none

/-- It is enough to look at the identifiers that were drawn. -/
theorem SafeConfig.quiescent {config : TokenConfig cluster} {cancels : Bool}
    (inv : config.SafeConfig cancels)
    (packets : ∀ source destination, config.state.fifo source destination = [])
    (closed : ∀ host requestId, requestId < config.state.nextRequestId host →
      config.state.waiter host requestId = none ∧ config.leased host requestId = none) :
    config.Quiescent := by
  have free : ∀ host requestId,
      config.state.waiter host requestId = none ∧ config.leased host requestId = none := by
    intro host requestId
    cases issued : config.issued host requestId with
    | none =>
        refine ⟨(inv.safe.places.unissued host requestId issued).1, ?_⟩
        by_contra leased
        have asked := inv.asked host requestId
          (inv.held host requestId (Option.isSome_iff_ne_none.mpr leased))
        rw [issued] at asked
        cases asked
    | some key => exact closed host requestId (inv.safe.places.drawn host requestId key issued).2.2
  refine ⟨fun source destination packet member => ?_, fun host requestId waiter found => ?_,
    fun key holder => ?_⟩
  · rw [packets source destination] at member
    cases member
  · rw [(free host requestId).1] at found
    cases found
  · cases holder with
    | waiter host requestId =>
        simp [TokenState.leaseFor, TokenState.grantedLease, (free host requestId).1]
    | caller host requestId => simp [TokenState.leaseFor, (free host requestId).2]

/-- As long as no cancellation overtakes its request, every delivered packet is handled, and a
quiescent system has the token of every live block available at its owner. -/
theorem cancellation_safe {allocation : GlobalPointer → Option (cluster.Host × Nat)}
    {config : TokenConfig cluster}
    (execution : ReachesBy DoesNotOvertake (initial cluster allocation) config) :
    (∀ source destination status next,
      config.DoesNotOvertake (.deliver source destination) →
      config.step (.deliver source destination) = some (status, next) → status = .ok) ∧
    ∀ key, config.state.Live key → config.Quiescent →
      (config.state.localObject (config.state.block key).tokenOwner key).available = true ∧
      (config.state.localObject (config.state.block key).tokenOwner key).held = false := by
  have inv := safe_of_reaches execution
  refine ⟨fun source destination status next admits performed =>
    (inv.step admits (by simp) performed).2 source destination rfl, ?_⟩
  intro key live quiescent
  obtain ⟨phase, at_, kind, -⟩ := inv.safe.steady key
  have steady : phase.steady = true := by
    rcases kind with ⟨steady, -⟩ | ⟨-, dead⟩
    · exact steady
    · exact (dead live).elim
  have idle : phase = .idle := by
    cases phase with
    | idle => rfl
    | busy | lost => simp [TokenPhase.steady] at steady
    | leased holder lease =>
        have none_ := (at_.leases holder).symm.trans (quiescent.leases key holder)
        simp [TokenPhase.leaseOf] at none_
    | flying source grant =>
        have plain := quiescent.packets source _ _ at_.mem_of_flying
        simp at plain
  subst idle
  refine ⟨(at_.available _).mpr ⟨rfl, rfl⟩, ?_⟩
  by_contra held
  have used := ((at_.held _).mp (by simpa using held)).1
  simp [TokenPhase.inUse] at used

/-- The third host cancels while its request is still on the way to the first host, which has
already handed the token to the second. -/
def overtakingOps : List (TokenOp threeHosts) :=
  [.request host1 onlyBlock true, .request host2 onlyBlock true, .deliver host1 host0,
    .cancel host2 1, .deliver host2 host1, .deliver host1 host2, .deliver host2 host0,
    .deliver host0 host1, .deliver host0 host1, .wait host1 1, .release host1 1 true]

/-- The late grant finds no waiter: its handler fails, and the token that it carried is nowhere. -/
theorem cancellation_loses_token :
    ∃ config next, threeHostsInitial.runOps overtakingOps = some config ∧
      config.step (.deliver host1 host2) =
        some (.notFound "token grant has no matching request", next) ∧
      (next.state.block onlyBlock).tokenOwner = host2 ∧
      (next.state.localObject host2 onlyBlock).available = false ∧
      (∀ source destination, next.state.fifo source destination = []) ∧
      ∀ host, next.state.waiter host 1 = none ∧ next.leased host 1 = none := by
  have fails : ((threeHostsInitial.runOps overtakingOps).bind fun config =>
      config.step (.deliver host1 host2)).any (fun result =>
        result.1 = .notFound "token grant has no matching request" ∧
          (result.2.state.block onlyBlock).tokenOwner = host2 ∧
          (result.2.state.localObject host2 onlyBlock).available = false ∧
          (∀ source destination, result.2.state.fifo source destination = []) ∧
          ∀ host, result.2.state.waiter host 1 = none ∧ result.2.leased host 1 = none) = true := by
    decide +kernel
  obtain ⟨⟨status, next⟩, performed, facts⟩ := (Option.any_eq_true _ _).mp fails
  obtain ⟨config, execution, delivered⟩ := Option.bind_eq_some_iff.mp performed
  obtain ⟨rfl, owner, missing, empty, closed⟩ := of_decide_eq_true facts
  exact ⟨config, next, execution, delivered, owner, missing, empty, closed⟩

/-- The third host cancels after its request was queued at the owner. -/
def orderlyOps : List (TokenOp threeHosts) :=
  [.request host1 onlyBlock true, .deliver host1 host0, .deliver host0 host1, .wait host1 1,
    .request host2 onlyBlock true, .deliver host2 host1, .cancel host2 1, .deliver host2 host1,
    .deliver host1 host2, .release host1 1 true]

theorem cancellation_safe_orderly :
    ∃ config, threeHostsInitial.runOps orderlyOps = some config ∧
      config.state.waiter host2 1 = none ∧ config.Quiescent ∧
      (config.state.localObject host1 onlyBlock).available = true ∧
      (config.state.localObject host1 onlyBlock).held = false := by
  have runs : (threeHostsInitial.runOps orderlyOps).any (fun config =>
      ((config.state.block onlyBlock).tokenOwner = host1 ∧
        config.state.waiter host2 1 = none) ∧
        ((∀ source destination, config.state.fifo source destination = []) ∧
          ∀ host, ∀ requestId < config.state.nextRequestId host,
            config.state.waiter host requestId = none ∧ config.leased host requestId = none) ∧
        (config.state.descriptor onlyBlock.object).state = .allocated ∧
        (config.state.descriptor onlyBlock.object).sealedHosts = 0#64 ∧
        onlyBlock.blockIndex < (config.state.descriptor onlyBlock.object).coherenceBlockCount) =
          true := by
    decide +kernel
  have admits : threeHostsInitial.AdmitsOps DoesNotOvertake orderlyOps := by
    decide +kernel
  obtain ⟨config, execution, facts⟩ := (Option.any_eq_true _ _).mp runs
  obtain ⟨⟨owner, cancelled⟩, ⟨packets, closed⟩, allocated, unsealed, inRange⟩ :=
    of_decide_eq_true facts
  have reached := reachesBy_of_runOps execution admits
  have quiescent := (safe_of_reaches reached).quiescent packets closed
  have safe := (cancellation_safe reached).2 onlyBlock
  rw [owner] at safe
  exact ⟨config, execution, cancelled, quiescent,
    safe ⟨rfl, by decide, allocated, unsealed, inRange⟩ quiescent⟩

/-! ## Every request is in one place -/

/-- Occurrences of a request among the packets under way, the pending queues and the granted
waiters. -/
def occurrences (config : TokenConfig cluster) (key : BlockKey) (host : cluster.Host)
    (requestId : Nat) : Nat :=
  config.state.travelling key host requestId + config.state.queued key host requestId +
    if (TokenState.grantedLease (config.state.waiter host requestId)).isSome then 1 else 0

/-- Without cancellation every request that was issued and not returned is in exactly one place,
and requests are pending only at the owner, which has the token or is about to get it. -/
theorem requests_occur_once {allocation : GlobalPointer → Option (cluster.Host × Nat)}
    {config : TokenConfig cluster}
    (execution : ReachesBy DoesNotCancel (initial cluster allocation) config) :
    (∀ host requestId key, config.issued host requestId = some key →
      config.returned host requestId = none →
        config.occurrences key host requestId = 1 ∧
        ∀ other, other ≠ key → config.state.places other host requestId = 0) ∧
    ∀ host key, (config.state.localObject host key).pending ≠ [] →
      host = (config.state.block key).tokenOwner ∧
      ((config.state.localObject host key).held = true ∨
        ∃ source grant, Packet.grant grant ∈ config.state.fifo source host ∧ grant.key = key ∧
          grant.newOwner = host) := by
  have inv := safe_of_doesNotCancel execution
  refine ⟨fun host requestId key issued open_ => ⟨?_, ?_⟩, fun host key waits => ?_⟩
  · have fits := inv.safe.places.fits host requestId key issued
    have returned : (config.ledger false).returned host requestId = none := open_
    have cancels : (config.ledger false).cancels = false := rfl
    rw [returned, cancels] at fits
    have counted : config.state.travelling key host requestId +
        config.state.queued key host requestId = config.state.places key host requestId := rfl
    rw [occurrences, counted]
    cases found : config.state.waiter host requestId with
    | none => simp [found, WaiterFits] at fits
    | some waiter =>
        cases phase : waiter.state <;>
          simp_all [WaiterFits, TokenState.grantedLease]
  · intro other apart
    by_contra placed
    have again := inv.safe.places.issued_of_place (Nat.pos_of_ne_zero placed)
    exact apart (Option.some.inj (again.symm.trans issued))
  · obtain ⟨phase, at_, kind, pending⟩ := inv.safe.steady key
    obtain ⟨owner, notIdle⟩ := pending host waits
    obtain ⟨request, member⟩ := List.exists_mem_of_ne_nil _ waits
    have proper := inv.safe.places.pending host key request member
    have live := (inv.safe.places.drawn _ _ _ proper.issued).1
    rw [inv.safe.token.pendingKeys host key request member] at live
    have steady : phase.steady = true := by
      rcases kind with ⟨steady, -⟩ | ⟨-, dead⟩
      · exact steady
      · exact (dead live).elim
    refine ⟨owner, ?_⟩
    cases phase with
    | idle => exact (notIdle rfl).elim
    | busy | lost => simp [TokenPhase.steady] at steady
    | leased holder lease => exact .inl ((at_.held host).mpr ⟨rfl, owner⟩)
    | flying source grant =>
        obtain ⟨sameKey, -, newOwner, -⟩ := at_.current
        exact .inr ⟨source, grant, owner ▸ at_.mem_of_flying, sameKey, newOwner.trans owner.symm⟩

/-- Two hosts ask for the token at the same time; the second request is forwarded. -/
def contendedOps : List (TokenOp threeHosts) :=
  [.request host1 onlyBlock true, .request host2 onlyBlock true, .deliver host1 host0,
    .deliver host2 host0, .deliver host0 host1]

theorem requests_occur_once_contended :
    ∃ config, threeHostsInitial.runOps contendedOps = some config ∧
      config.occurrences onlyBlock host1 1 = 1 ∧ config.occurrences onlyBlock host2 1 = 1 := by
  have runs : (threeHostsInitial.runOps contendedOps).any (fun config =>
      config.issued host1 1 = some onlyBlock ∧ config.issued host2 1 = some onlyBlock ∧
        config.returned host1 1 = none ∧ config.returned host2 1 = none) = true := by
    decide +kernel
  have admits : threeHostsInitial.AdmitsOps DoesNotCancel contendedOps := by
    decide +kernel
  obtain ⟨config, execution, facts⟩ := (Option.any_eq_true _ _).mp runs
  obtain ⟨first, second, firstOpen, secondOpen⟩ := of_decide_eq_true facts
  have once := (requests_occur_once (reachesBy_of_runOps execution admits)).1
  exact ⟨config, execution, (once host1 1 onlyBlock first firstOpen).1,
    (once host2 1 onlyBlock second secondOpen).1⟩

end Cxloom.LoomMem.TokenConfig
