import Cxloom.LoomMem.TokenRequests

/-!
# Cancellation

A cancellation travels from the requester to the present owner of the token, and its request may
travel by another route.  As long as no cancellation overtakes its request, every message is
handled, every token stays steady, and an idle system has the token of each block available at
its owner.
-/

namespace Cxloom.LoomMem.TokenState

variable {cluster : Cluster}

def withQueue (state : TokenState cluster) (host : cluster.Host) (key : BlockKey)
    (queue : List (TokenRequest cluster)) : TokenState cluster :=
  state.setLocal host key { state.localObject host key with pending := queue }

/-- The second invariant between operations. -/
structure SafeInv (state : TokenState cluster) (ledger : RequestLedger cluster)
    (leased : cluster.Host → Nat → Option TokenLease) : Prop where
  token : state.TokenInv leased
  /-- Every waiter fits the places of its request. -/
  places : state.PlaceInv ledger state.places
  steady : ∀ key, state.Steady leased key

/-- The second invariant while a host serves a queue of the block it has in use. -/
structure SafeBusy (state : TokenState cluster) (ledger : RequestLedger cluster)
    (leased : cluster.Host → Nat → Option TokenLease) (host : cluster.Host) (key : BlockKey)
    (tokenEpoch : Nat) (queue : List (TokenRequest cluster)) : Prop where
  busy : state.BusyAt leased host key tokenEpoch
  /-- The block exists. -/
  live : state.Live key
  /-- Waiters fit when the queue is pending. -/
  places : state.PlaceInv ledger (state.withQueue host key queue).places
  others : ∀ other, other ≠ key → state.Steady leased other
  /-- No request for the block waits at another host. -/
  elsewhere : ∀ other, other ≠ host → (state.localObject other key).pending = []
  keys : ∀ request ∈ queue, request.key = key
  proper : ∀ request ∈ queue, state.ProperRequest ledger.issued request
  drained : queue = [] → (state.localObject host key).pending = []

section Counting

variable (state : TokenState cluster) {after : TokenState cluster} (host : cluster.Host)
  {key : BlockKey}

variable {state host} in
theorem withQueue_self : state.withQueue host key (state.localObject host key).pending = state :=
  setLocal_self state host key

theorem withQueue_places_cons {next : TokenRequest cluster} (nextKey : next.key = key)
    (rest : List (TokenRequest cluster)) (other : BlockKey) (requester : cluster.Host)
    (requestId : Nat) :
    (state.withQueue host key (next :: rest)).places other requester requestId =
      (state.withQueue host key rest).places other requester requestId +
        if next.isFor other requester requestId then 1 else 0 := by
  by_cases same : key = other
  · subst same
    have long := setLocal_places state key requester requestId host
      { state.localObject host key with pending := next :: rest }
    have short := setLocal_places state key requester requestId host
      { state.localObject host key with pending := rest }
    dsimp only at short
    simp only [List.countP_cons] at long
    simp only [withQueue]
    omega
  · have foreign : next.isFor other requester requestId = false := by
      simp [TokenRequest.isFor, nextKey, same]
    simp only [withQueue, foreign]
    rw [setLocal_places_of_ne other requester requestId same,
      setLocal_places_of_ne other requester requestId same]
    simp

variable {state host}

/-- Queueing a request at the end adds its place. -/
theorem withQueue_places_append {next : TokenRequest cluster} (nextKey : next.key = key)
    (other : BlockKey) (requester : cluster.Host) (requestId : Nat) :
    (state.withQueue host key ((state.localObject host key).pending ++ [next])).places other
        requester requestId =
      state.places other requester requestId +
        if next.isFor other requester requestId then 1 else 0 := by
  by_cases same : key = other
  · subst same
    have counted := setLocal_places state key requester requestId host
      { state.localObject host key with
        pending := (state.localObject host key).pending ++ [next] }
    simp only [List.countP_append, List.countP_singleton] at counted
    simp only [withQueue]
    omega
  · have foreign : next.isFor other requester requestId = false := by
      simp [TokenRequest.isFor, nextKey, same]
    rw [withQueue, setLocal_places_of_ne other requester requestId same, foreign]
    rfl

theorem withQueue_places_congr {queue : List (TokenRequest cluster)}
    (fifos : ∀ source destination, after.fifo source destination = state.fifo source destination)
    (elsewhere : ∀ other otherKey, ¬(other = host ∧ otherKey = key) →
      (after.localObject other otherKey).pending = (state.localObject other otherKey).pending)
    (pending : (after.localObject host key).pending = queue) (other : BlockKey)
    (requester : cluster.Host) (requestId : Nat) :
    after.places other requester requestId =
      (state.withQueue host key queue).places other requester requestId := by
  refine places_congr other requester requestId (by simp [withQueue, fifos]) ?_
  intro otherHost
  by_cases same : otherHost = host ∧ other = key
  · obtain ⟨rfl, rfl⟩ := same
    simp [withQueue, pending]
  · simp [withQueue, same, elsewhere otherHost other same]

theorem isFor_self (request : TokenRequest cluster) :
    request.isFor request.key request.requester request.requestId = true := by
  simp [TokenRequest.isFor]

end Counting

section Opened

variable (state : TokenState cluster) (host : cluster.Host) (key : BlockKey)
  (request : TokenRequest cluster) (rest : List (TokenRequest cluster))

@[simp] theorem opened_waiter (other : cluster.Host) (requestId : Nat) :
    (state.opened host key request rest).waiter other requestId = state.waiter other requestId := by
  simp [opened]

@[simp] theorem opened_fifo (source destination : cluster.Host) :
    (state.opened host key request rest).fifo source destination =
      state.fifo source destination := by
  simp [opened]

@[simp] theorem opened_descriptor :
    (state.opened host key request rest).descriptor = state.descriptor := by
  simp [opened]

theorem opened_pending (other : cluster.Host) (otherKey : BlockKey) :
    ((state.opened host key request rest).localObject other otherKey).pending =
      if other = host ∧ otherKey = key then rest
      else (state.localObject other otherKey).pending := by
  by_cases same : other = host ∧ otherKey = key
  · obtain ⟨rfl, rfl⟩ := same
    simp [opened]
  · simp [opened, same]

theorem opened_version (other : BlockKey) :
    ((state.opened host key request rest).block other).version = (state.block other).version := by
  obtain ⟨writebackEpoch, changed⟩ := (state.setLocal host key
    { state.localObject host key with pending := rest }).activateIf_eq_setBlock key
      request.activateCoherenceEpoch
  simp only [opened, changed, setLocal_block, setBlock_block]
  split
  · rename_i same
    rw [same]
  · rfl

end Opened

namespace SafeBusy

variable {state : TokenState cluster} {ledger : RequestLedger cluster}
  {leased : cluster.Host → Nat → Option TokenLease} {host : cluster.Host} {key : BlockKey}
  {tokenEpoch : Nat} {next : TokenRequest cluster} {rest queue : List (TokenRequest cluster)}

theorem next_waiter
    (safe : state.SafeBusy ledger leased host key tokenEpoch (next :: rest)) :
    (state.withQueue host key rest).places key next.requester next.requestId = 0 ∧
      ledger.returned next.requester next.requestId = none ∧
      ∃ waiter, state.waiter next.requester next.requestId = some waiter ∧
        (waiter.state = .active ∧ waiter.abandoned = false ∨
          waiter.state = .cancelling ∧ waiter.abandoned = true ∧ ledger.cancels = true) := by
  have nextKey := safe.keys next List.mem_cons_self
  have found := (safe.proper next List.mem_cons_self).issued
  have counted := withQueue_places_cons state host nextKey rest key
    next.requester next.requestId
  have mine : next.isFor key next.requester next.requestId = true := nextKey ▸ isFor_self next
  rw [mine, if_pos rfl] at counted
  have fits := safe.places.fits next.requester next.requestId key (nextKey ▸ found)
  obtain ⟨one, waiter⟩ := fits.of_pos (by omega)
  exact ⟨by omega, waiter⟩

theorem rest_keys (safe : state.SafeBusy ledger leased host key tokenEpoch (next :: rest)) :
    ∀ request ∈ rest, request.key = key := fun request member =>
  safe.keys request (List.mem_cons_of_mem _ member)

theorem answer (safe : state.SafeBusy ledger leased host key tokenEpoch (next :: rest))
    (local_ : next.requester = host) {replacement : Option Waiter}
    (settled : Settled (state.waiter host next.requestId) → Settled replacement)
    (fits : WaiterFits ledger.cancels (ledger.returned host next.requestId) replacement 0) :
    ((state.opened host key next rest).setWaiter host next.requestId replacement).PlaceInv ledger
      (state.withQueue host key rest).places := by
  subst local_
  have nextKey := safe.keys next List.mem_cons_self
  have counted := withQueue_places_cons state next.requester nextKey rest
  have popped := safe.places.setLocal next.requester key
    { state.localObject next.requester key with pending := rest }
    (fun request member => .inr (safe.proper request (List.mem_cons_of_mem _ member)))
  have opened : (state.opened next.requester key next rest).PlaceInv ledger
      (state.withQueue next.requester key (next :: rest)).places :=
    (popped.activateIf key next.activateCoherenceEpoch).setLocal _ _ _ fun request member =>
      .inl member
  have owned : ledger.issued next.requester next.requestId = some key :=
    nextKey ▸ (safe.proper next List.mem_cons_self).issued
  refine opened.setWaiter owned replacement (by simpa using settled) ?_ ?_ ?_
  · intro other requester requestId
    rw [counted]
    exact Nat.le_add_right _ _
  · intro other requester requestId apart
    have foreign : next.isFor other requester requestId = false := by
      simp only [TokenRequest.isFor, decide_eq_false_iff_not]
      rintro ⟨-, same, id⟩
      exact apart ⟨same.symm, id.symm⟩
    rw [counted, foreign]
    rfl
  · rw [safe.next_waiter.1]
    exact fits

theorem answer_others (safe : state.SafeBusy ledger leased host key tokenEpoch (next :: rest))
    (local_ : next.requester = host) {replacement : Option Waiter}
    (foreign : ∀ lease, grantedLease replacement = some lease → lease.key = key)
    {other : BlockKey} (apart : other ≠ key) :
    ((state.opened host key next rest).setWaiter host next.requestId replacement).Steady leased
      other := by
  have steady : (state.opened host key next rest).Steady leased other :=
    (((safe.others other apart).setLocal_of_ne apart _).activateIf_of_ne apart _).setLocal_of_ne
      apart _
  obtain ⟨-, -, waiter, found, kind⟩ := safe.next_waiter
  rw [local_] at found
  have notGranted : waiter.state ≠ .granted := by
    rcases kind with ⟨active, -⟩ | ⟨cancelling, -⟩ <;> simp [*]
  refine steady.setWaiter _ ?_
  have none_ : (state.opened host key next rest).leaseFor leased other
      (.waiter host next.requestId) = none := by
    simp [leaseFor, found, grantedLease, notGranted]
  rw [none_, Option.filter_eq_none_iff]
  intro lease granted
  simp [foreign lease granted, Ne.symm apart]

/-- A late grant leaves the rest of the queue to be served. -/
theorem afterLate (safe : state.SafeBusy ledger leased host key tokenEpoch (next :: rest))
    (local_ : next.requester = host) {waiter : Waiter}
    (found : state.waiter host next.requestId = some waiter) (abandoned : waiter.abandoned = true) :
    (((state.opened host key next rest).setWaiter host next.requestId
      (lateWaiter waiter)).publishRelease host key false).SafeBusy ledger leased host key tokenEpoch
        rest := by
  have taken := safe.busy.opened next safe.rest_keys
  obtain ⟨-, open_, known, knownFound, kind⟩ := safe.next_waiter
  rw [local_] at open_
  rw [local_, found] at knownFound
  obtain rfl := Option.some.inj knownFound
  have cancels : ledger.cancels = true := by
    rcases kind with ⟨-, kept⟩ | ⟨-, -, cancels⟩
    · simp [kept] at abandoned
    · exact cancels
  have dropped := taken.clearWaiter host next.requestId (grantedLease_lateWaiter waiter)
  have version : ∀ other, (state.block other).version ≤
      ((((state.opened host key next rest).setWaiter host next.requestId
        (lateWaiter waiter)).publishRelease host key false).block other).version := by
    intro other
    have published := publishRelease_version ((state.opened host key next rest).setWaiter host
      next.requestId (lateWaiter waiter)) host key false other
    rwa [setWaiter_block, opened_version] at published
  refine ⟨dropped.publishRelease false, safe.live.congr (by simp), ?_, ?_, ?_, safe.rest_keys, ?_,
    ?_⟩
  · refine PlaceInv.recounted ((safe.answer local_ ?_ ?_).publishRelease host key false) ?_
    · intro _
      cases retained : waiter.retainCompletion <;> simp [lateWaiter, retained, Settled]
    · cases retained : waiter.retainCompletion <;>
        simp [lateWaiter, retained, WaiterFits, open_, cancels]
    · refine withQueue_places_congr (by simp [withQueue]) ?_ (by simp [withQueue])
      intro other otherKey apart
      simp [withQueue, opened_pending, apart]
  · intro other apart
    refine (safe.answer_others local_ ?_ apart).publishRelease_of_ne apart false
    simp [grantedLease_lateWaiter]
  · intro other apart
    simp [opened_pending, apart, safe.elsewhere other apart]
  · intro request member
    exact (safe.proper request (List.mem_cons_of_mem _ member)).mono version
  · intro empty
    simp [opened_pending, empty]

end SafeBusy

/-- The worked block is steady again and the others stayed so. -/
theorem steady_of_focus {state : TokenState cluster}
    {leased : cluster.Host → Nat → Option TokenLease} (key : BlockKey)
    (focus : state.Steady leased key) (others : ∀ other, other ≠ key → state.Steady leased other)
    (other : BlockKey) : state.Steady leased other := by
  by_cases same : other = key
  · rwa [same]
  · exact others other same

/-- Serving a queue whose requests are all accounted for succeeds and ends with steady tokens. -/
theorem Served.safe {host : cluster.Host} {key : BlockKey} {queue : List (TokenRequest cluster)}
    {state : TokenState cluster} {result : Status × TokenState cluster}
    (served : Served host key queue state result)
    {ledger : RequestLedger cluster}
    {leased : cluster.Host → Nat → Option TokenLease} {tokenEpoch : Nat}
    (safe : state.SafeBusy ledger leased host key tokenEpoch queue)
    (even : (state.block key).writebackEpoch % 2 = 0) :
    result.1 = .ok ∧ result.2.SafeInv ledger leased := by
  have token := (served.tokenInv safe.busy even safe.keys).1
  induction served with
  | rest state =>
      have drained := safe.drained rfl
      refine ⟨rfl, token, ?_, ?_⟩
      · refine PlaceInv.recounted (safe.places.setLocal _ _ _ fun request member => .inl member) ?_
        refine withQueue_places_congr (by simp) ?_ (by simpa using drained)
        intro other otherKey apart
        simp [apart]
      · refine steady_of_focus _ ?_ fun other apart =>
          (safe.others other apart).setLocal_of_ne apart _
        refine ⟨.idle, safe.busy.busy.rest safe.busy.owner.symm even _, .inl ⟨rfl, ?_⟩, ?_⟩
        · exact safe.live.congr rfl
        · intro other waits
          by_cases same : other = host
          · simp [same, drained] at waits
          · simp [same, safe.elsewhere other same] at waits
  | orphan state next rest local_ missing =>
      obtain ⟨-, -, waiter, found, -⟩ := safe.next_waiter
      rw [local_, missing] at found
      exact (Option.some_ne_none _ found.symm).elim
  | granted state next rest waiter local_ found kept =>
      have taken := safe.busy.opened next safe.rest_keys
      have nextKey := safe.keys next List.mem_cons_self
      obtain ⟨-, open_, known, knownFound, kind⟩ := safe.next_waiter
      rw [local_] at open_
      rw [local_, found] at knownFound
      obtain rfl := Option.some.inj knownFound
      have active : waiter.state = .active := by
        rcases kind with ⟨active, -⟩ | ⟨-, abandoned, -⟩
        · exact active
        · simp [kept] at abandoned
      refine ⟨rfl, token, ?_, ?_⟩
      · refine PlaceInv.recounted (safe.answer local_ ?_ ⟨open_, rfl⟩) ?_
        · simp [found, Settled, active]
        · refine withQueue_places_congr (by simp) ?_ (by simp [opened_pending])
          intro other otherKey apart
          simp [opened_pending, apart]
      · refine steady_of_focus _ ?_ fun other apart => safe.answer_others local_ ?_ apart
        · refine ⟨_, taken.busy.grantTo _ rfl taken.owner.symm nextKey rfl, .inl ⟨rfl, ?_⟩, ?_⟩
          · exact safe.live.congr (by simp)
          · intro other waits
            refine ⟨?_, by simp⟩
            rw [setWaiter_block, taken.owner]
            by_contra apart
            simp [opened_pending, apart, safe.elsewhere other apart] at waits
        · intro lease granted
          obtain rfl := Option.some.inj granted
          exact nextKey
  | late state next rest waiter result local_ found abandoned served induction =>
      refine induction (safe.afterLate local_ found abandoned) (publishRelease_even _ _ _ _) ?_
      exact token
  | handedOff state next rest remote =>
      have popped := safe.busy.setLocal { state.localObject host key with pending := rest }
        safe.busy.available safe.busy.held safe.rest_keys
      have nextKey := safe.keys next List.mem_cons_self
      have empty := popped.inv.selfQueues
      have evenAfter : ((state.withQueue host key rest).block key).writebackEpoch % 2 = 0 := even
      obtain ⟨status, -, objects, fifos⟩ := handOff_spec key empty remote
      refine ⟨status, token, ?_, ?_⟩
      · have kept := safe.places.setLocal host key
          { state.localObject host key with pending := rest }
          (fun request member => .inr (safe.proper request (List.mem_cons_of_mem _ member)))
        refine PlaceInv.recounted (kept.handOff empty remote ?_ ?_) ?_
        · exact (safe.proper next List.mem_cons_self).mono fun _ => Nat.le_refl _
        · intro request member
          refine (safe.proper request (List.mem_cons_of_mem _ ?_)).mono fun _ => Nat.le_refl _
          simpa using member
        · intro other requester requestId
          rw [withQueue_places_cons state host nextKey]
          exact handOff_places other requester requestId empty remote
            (by simpa using safe.rest_keys)
      · refine steady_of_focus _ ?_ fun other apart =>
          ((safe.others other apart).setLocal_of_ne apart _).handOff_of_ne apart empty nextKey
            remote
        refine ⟨_, popped.busy.handOff empty popped.owner.symm evenAfter nextKey remote,
          .inl ⟨rfl, safe.live.congr (by simp)⟩, ?_⟩
        intro other waits
        by_cases same : other = host
        · simp [objects, same, LocalObject.fresh] at waits
        · simp [objects, same, safe.elsewhere other same] at waits

/-! ## Releases -/

namespace SafeBusy

variable {state : TokenState cluster} {ledger : RequestLedger cluster}
  {leased : cluster.Host → Nat → Option TokenLease} {host : cluster.Host} {key : BlockKey}
  {tokenEpoch : Nat} {queue : List (TokenRequest cluster)}

theorem publishRelease (safe : state.SafeBusy ledger leased host key tokenEpoch queue)
    (modified : Bool) :
    (state.publishRelease host key modified).SafeBusy ledger leased host key tokenEpoch queue where
  busy := safe.busy.publishRelease modified
  live := safe.live.congr rfl
  places :=
    (safe.places.publishRelease host key modified).recounted fun other requester requestId =>
    places_congr other requester requestId (by simp [withQueue]) (fun _ => by simp [withQueue])
  others other apart := (safe.others other apart).publishRelease_of_ne apart modified
  elsewhere := safe.elsewhere
  keys := safe.keys
  proper request member :=
    (safe.proper request member).mono (state.publishRelease_version host key modified)
  drained := safe.drained

/-- A release of the lease of a busy token is refused without effect or succeeds. -/
theorem release (safe : state.SafeBusy ledger leased host key tokenEpoch
      (state.localObject host key).pending)
    {lease : TokenLease} (leaseKey : lease.key = key) (epoch : lease.tokenEpoch = tokenEpoch)
    (modified : Bool) :
    modified = true ∧ (state.release host lease modified).1.isOk = false ∧
        (state.release host lease modified).2 = state ∨
      (state.release host lease modified).1 = .ok ∧
        (state.release host lease modified).2.SafeInv ledger leased := by
  obtain rfl := leaseKey
  have presented := safe.busy.presented rfl epoch
  by_cases closed : modified = true ∧ (state.block lease.key).writebackEpoch % 2 = 0
  · left
    have accepted := presented.leaseStatus safe.live
    rw [TokenState.release, releasePending]
    simp [accepted, closed]
  · right
    have odd : modified = true → (state.block lease.key).writebackEpoch % 2 = 1 := by
      intro changed
      have notEven : (state.block lease.key).writebackEpoch % 2 ≠ 0 := fun even =>
        closed ⟨changed, even⟩
      omega
    exact (releasePending_served (state.localObject host lease.key).pending safe.live presented odd
      safe.keys).safe (safe.publishRelease modified)
        (state.publishRelease_even host lease.key modified)

theorem release_unmodified (safe : state.SafeBusy ledger leased host key tokenEpoch
      (state.localObject host key).pending)
    {lease : TokenLease} (leaseKey : lease.key = key) (epoch : lease.tokenEpoch = tokenEpoch) :
    (state.release host lease false).1 = .ok ∧
      (state.release host lease false).2.SafeInv ledger leased :=
  (safe.release leaseKey epoch false).resolve_left (by simp)

end SafeBusy

namespace SafeInv

variable {state after : TokenState cluster} {ledger : RequestLedger cluster}
  {leased : cluster.Host → Nat → Option TokenLease} {host : cluster.Host} {key : BlockKey}

/-- A leased token belongs to an existing block, and requests wait only at its owner. -/
theorem of_lease (inv : state.SafeInv ledger leased) {holder : LeaseHolder cluster}
    {lease : TokenLease} (found : state.leaseFor leased key holder = some lease) :
    state.Live key ∧ ∀ other, other ≠ (state.block key).tokenOwner →
      (state.localObject other key).pending = [] := by
  obtain ⟨phase, at_, kind, pending⟩ := inv.steady key
  obtain rfl := at_.leased_of_lease found
  refine ⟨?_, fun other apart => ?_⟩
  · rcases kind with ⟨-, live⟩ | ⟨impossible, -⟩
    · exact live
    · simp at impossible
  · by_contra waits
    exact apart (pending other waits).1

theorem busy_of_caller (inv : state.SafeInv ledger leased) {requestId : Nat} {lease : TokenLease}
    (found : leased host requestId = some lease) :
    state.SafeBusy ledger (updateEntry leased host requestId none) host lease.key lease.tokenEpoch
      (state.localObject host lease.key).pending := by
  have busy := inv.token.busy_of_caller host found
  have held : state.leaseFor leased lease.key (.caller host requestId) = some lease := by
    simp [leaseFor, found]
  obtain ⟨live, elsewhere⟩ := inv.of_lease held
  refine ⟨busy, live, ?_, ?_, ?_, inv.token.pendingKeys host lease.key,
    inv.places.pending host lease.key, id⟩
  · rw [withQueue_self]
    exact inv.places
  · intro other apart
    refine (inv.steady other).updateEntry ?_
    simp [leaseFor, found, Option.filter, Ne.symm apart]
  · intro other apart
    exact elsewhere other (busy.owner ▸ apart)

theorem busy_of_waiter (inv : state.SafeInv ledger leased) (cancels : ledger.cancels = true)
    {requestId : Nat} {waiter : Waiter} (found : state.waiter host requestId = some waiter)
    (granted : waiter.state = .granted) :
    (state.setWaiter host requestId none).SafeBusy ledger leased host waiter.lease.key
      waiter.lease.tokenEpoch
        ((state.setWaiter host requestId none).localObject host waiter.lease.key).pending := by
  have busy := inv.token.busy_of_waiter host found granted none rfl
  have lease : state.leaseFor leased waiter.lease.key (.waiter host requestId) =
      some waiter.lease := by
    simp [leaseFor, found, grantedLease, granted]
  obtain ⟨live, elsewhere⟩ := inv.of_lease lease
  cases owned : ledger.issued host requestId with
  | none => simp [(inv.places.unissued host requestId owned).1] at found
  | some key =>
      have zero : state.places key host requestId = 0 := by
        have fits := inv.places.fits host requestId key owned
        exact (by simpa [found, WaiterFits, granted] using fits :
          ledger.returned host requestId = none ∧ state.places key host requestId = 0).2
      refine ⟨busy, live.congr rfl, ?_, ?_, ?_, by simpa using inv.token.pendingKeys host _, ?_, id⟩
      · rw [withQueue_self]
        exact (inv.places.setWaiter owned none (fun _ => trivial)
          (fun _ _ _ => Nat.le_refl _) (fun _ _ _ _ => rfl) ⟨zero, .inl cancels⟩).recounted
            (by simp)
      · intro other apart
        refine (inv.steady other).setWaiter none ?_
        simp [leaseFor, found, grantedLease, granted, Option.filter, Ne.symm apart]
      · intro other apart
        rw [setWaiter_localObject]
        exact elsewhere other (busy.owner ▸ apart)
      · intro request member
        exact (inv.places.pending host waiter.lease.key request (by simpa using member)).mono
          fun _ => Nat.le_refl _

/-! ## Handlers -/

/-- A packet that is no place of a request and no grant can be sent. -/
theorem enqueueOutbound (inv : state.SafeInv ledger leased) {destination : cluster.Host}
    (packet : Packet cluster) (remote : destination ≠ host)
    (proper : state.ProperPacket ledger state.places destination packet)
    (noPlace : ∀ key requester requestId, packet.isFor key requester requestId = false)
    (plain : ∀ key, packet.grantFor key = none) :
    (state.enqueueOutbound host destination packet).1 = .ok ∧
      (state.enqueueOutbound host destination packet).2.SafeInv ledger leased := by
  refine ⟨enqueueOutbound_status state host destination packet inv.token.selfQueues remote,
    inv.token.enqueueOutbound packet remote plain, ?_, fun key =>
      (inv.steady key).enqueueOutbound (plain key)⟩
  refine (inv.places.enqueueOutbound host packet proper).recounted ?_
  intro key requester requestId
  simp [enqueueOutbound_places, noPlace]

theorem changeWaiter (inv : state.SafeInv ledger leased) {requestId : Nat}
    (owned : ledger.issued host requestId = some key)
    (before : grantedLease (state.waiter host requestId) = none)
    (replacement : Option Waiter) (after : Settled replacement)
    (fits : WaiterFits ledger.cancels (ledger.returned host requestId) replacement
      (state.places key host requestId)) :
    (state.setWaiter host requestId replacement).SafeInv ledger leased := by
  refine ⟨inv.token.clearWaiter host requestId replacement after.grantedLease, ?_, fun other => ?_⟩
  · exact (inv.places.setWaiter owned replacement (fun _ => after) (fun _ _ _ => Nat.le_refl _)
      (fun _ _ _ _ => rfl) fits).recounted (by simp)
  · refine (inv.steady other).setWaiter replacement ?_
    simp [leaseFor, before, after.grantedLease]

theorem handleCancelAck (inv : state.SafeInv ledger leased) {ack : TokenCancelAck cluster}
    (proper : state.ProperPacket ledger state.places host (.cancelAck ack)) :
    (state.handleCancelAck host ack).1 = .ok ∧
      (state.handleCancelAck host ack).2.SafeInv ledger leased := by
  obtain ⟨cancels, addressed, owned, settled, zero⟩ := proper
  have nonzero : ack.requestId ≠ 0 := by
    have positive := (inv.places.drawn host ack.requestId ack.key owned).2.1
    omega
  simp only [TokenState.handleCancelAck, addressed, nonzero, ne_eq, not_true_eq_false, or_self,
    if_false]
  split
  · exact ⟨rfl, inv⟩
  · rename_i waiter found
    split
    · exact ⟨rfl, inv⟩
    · rename_i reason
      have fits := inv.places.fits host ack.requestId ack.key owned
      rw [found] at fits settled
      obtain ⟨-, open_, -⟩ := fits.of_settled settled
      refine ⟨rfl, inv.changeWaiter owned (by rw [found, settled.grantedLease]) _ ?_ ?_⟩
      · split <;> simp [Settled]
      · rw [zero reason]
        split <;> simp [WaiterFits, cancels, open_]

theorem acknowledgeCancel (inv : state.SafeInv ledger leased) {cancel : TokenCancel cluster}
    {reason : TokenCompletionReason}
    (proper : state.ProperPacket ledger state.places cancel.requester (.cancelAck
      { key := cancel.key
        requestId := cancel.requestId
        requester := cancel.requester
        reason := reason })) :
    (state.acknowledgeCancel host cancel reason).1 = .ok ∧
      (state.acknowledgeCancel host cancel reason).2.SafeInv ledger leased := by
  simp only [TokenState.acknowledgeCancel]
  split
  · rename_i mine
    rw [mine] at proper ⊢
    exact inv.handleCancelAck proper
  · rename_i remote
    exact inv.enqueueOutbound _ remote proper (fun _ _ _ => rfl) (fun _ => rfl)

theorem erase_places (inv : state.SafeInv ledger leased) {cancel : TokenCancel cluster}
    (removed : (state.localObject host cancel.key).pending.any cancel.matches = true)
    (other : BlockKey)
    (requester : cluster.Host) (requestId : Nat) :
    state.places other requester requestId =
      (state.withQueue host cancel.key
        ((state.localObject host cancel.key).pending.eraseP cancel.matches)).places other requester
          requestId +
        if other = cancel.key ∧ requester = cancel.requester ∧ requestId = cancel.requestId then 1
        else 0 := by
  obtain ⟨entry, member, found⟩ := List.any_eq_true.mp removed
  obtain ⟨erased, before, behind, -, hit, split_, rest⟩ := List.exists_of_eraseP member found
  have erasedKey := inv.token.pendingKeys host cancel.key erased (by simp [split_])
  obtain ⟨sameRequester, sameId, -⟩ : erased.requester = cancel.requester ∧
      erased.requestId = cancel.requestId ∧ erased.key.blockIndex = cancel.key.blockIndex := by
    simpa [TokenCancel.matches] using hit
  by_cases same : cancel.key = other
  · subst same
    have counted := setLocal_places state cancel.key requester requestId host
      { state.localObject host cancel.key with
        pending := (state.localObject host cancel.key).pending.eraseP cancel.matches }
    dsimp only at counted
    rw [rest, split_] at counted
    simp only [List.countP_append, List.countP_cons, TokenRequest.isFor, erasedKey, sameRequester,
      sameId, true_and, decide_eq_true_eq] at counted
    simp only [withQueue, rest, true_and, @eq_comm _ requester, @eq_comm _ requestId]
    omega
  · have apart : ¬(other = cancel.key ∧ requester = cancel.requester ∧
        requestId = cancel.requestId) := fun equal => same equal.1.symm
    rw [if_neg apart, withQueue, setLocal_places_of_ne other requester requestId same]
    rfl

theorem erase (inv : state.SafeInv ledger leased) {cancel : TokenCancel cluster}
    (settled : Settled (state.waiter cancel.requester cancel.requestId))
    (removed : (state.localObject host cancel.key).pending.any cancel.matches = true) :
    (state.withQueue host cancel.key
      ((state.localObject host cancel.key).pending.eraseP cancel.matches)).SafeInv ledger
        leased := by
  have counted := inv.erase_places removed
  refine ⟨inv.token.setPending host fun request member =>
    inv.token.pendingKeys host cancel.key request (List.mem_of_mem_eraseP member), ?_, ?_⟩
  · have kept := inv.places.setLocal host cancel.key
      { state.localObject host cancel.key with
        pending := (state.localObject host cancel.key).pending.eraseP cancel.matches }
      (fun request member => .inl (List.mem_of_mem_eraseP member))
    refine kept.recount (fun other requester requestId => ?_) fun requester requestId other found =>
      ?_
    · rw [counted]
      exact Nat.le_add_right _ _
    · have fits := kept.fits requester requestId other found
      rw [counted] at fits
      split at fits
      · rename_i mine
        obtain ⟨rfl, rfl, rfl⟩ := mine
        have zero := fits.le_one
        rw [Nat.le_zero.mp (Nat.le_of_add_le_add_right (c := 0) zero)]
        obtain ⟨-, -, waiter, present, -⟩ := fits.of_pos (Nat.succ_pos _)
        rw [present] at fits ⊢
        refine (fits.of_settled ?_).2.2
        rw [← present]
        simpa using settled
      · exact fits
  · refine steady_of_focus _ ?_ fun other apart => (inv.steady other).setLocal_of_ne apart _
    obtain ⟨phase, at_, kind, pending⟩ := inv.steady cancel.key
    refine ⟨phase, at_.keepFlags host rfl rfl, ?_, ?_⟩
    · exact kind.imp (fun live => ⟨live.1, live.2.congr rfl⟩)
        (fun dead => ⟨dead.1, fun live => dead.2 (live.congr rfl)⟩)
    · intro other waits
      refine pending other fun empty => waits ?_
      by_cases same : other = host
      · subst same
        simp [withQueue, empty]
      · simp [withQueue, same, empty]

theorem handleCancel (inv : state.SafeInv ledger leased) (cancels : ledger.cancels = true)
    {cancel : TokenCancel cluster}
    (owned : ledger.issued cancel.requester cancel.requestId = some cancel.key)
    (settled : Settled (state.waiter cancel.requester cancel.requestId))
    (met : (state.block cancel.key).tokenOwner = host → host ≠ cancel.requester →
      (state.localObject host cancel.key).pending.any cancel.matches = false →
      state.places cancel.key cancel.requester cancel.requestId = 0) :
    (state.handleCancel host cancel).1 = .ok ∧
      (state.handleCancel host cancel).2.SafeInv ledger leased := by
  obtain ⟨live, positive, -⟩ := inv.places.drawn cancel.requester cancel.requestId cancel.key owned
  have inRange : ¬(kMaxHosts ≤ cancel.requester.val ∨ cancel.requestId = 0) := by
    have below := Cluster.host_lt_max cancel.requester
    omega
  simp only [TokenState.handleCancel, inRange, live.target, Status.isOk_ok, not_true_eq_false,
    if_false]
  split
  · rename_i remote
    exact inv.enqueueOutbound (.cancel cancel) remote ⟨cancels, owned, settled⟩
      (fun _ _ _ => rfl) (fun _ => rfl)
  · rename_i owner
    have here : (state.block cancel.key).tokenOwner = host := by simpa using owner
    cases removed : (state.localObject host cancel.key).pending.any cancel.matches with
    | true =>
        have erased := inv.erase settled removed
        have zero : (state.withQueue host cancel.key
            ((state.localObject host cancel.key).pending.eraseP cancel.matches)).places cancel.key
              cancel.requester cancel.requestId = 0 := by
          have counted := inv.erase_places removed cancel.key cancel.requester cancel.requestId
          have bound := (inv.places.fits cancel.requester cancel.requestId cancel.key owned).le_one
          simp only [and_self, if_true] at counted
          omega
        refine erased.acknowledgeCancel ⟨cancels, rfl, owned, ?_, fun _ => zero⟩
        simpa [withQueue] using settled
    | false =>
        have unchanged : (state.localObject host cancel.key).pending.eraseP cancel.matches =
            (state.localObject host cancel.key).pending :=
          List.eraseP_of_forall_not fun entry member => by
            simpa using List.any_eq_false.mp removed entry member
        rw [unchanged, setLocal_self]
        refine inv.acknowledgeCancel ⟨cancels, rfl, owned, settled, fun reason => ?_⟩
        refine met here ?_ removed
        rintro rfl
        simp [here] at reason

end SafeInv

/-! ## Delivery -/

/-- The invariant between the pop of a packet and its handling. -/
structure Popped (state : TokenState cluster) (ledger : RequestLedger cluster)
    (leased : cluster.Host → Nat → Option TokenLease) (request : TokenRequest cluster) :
    Prop where
  token : state.TokenInv leased
  /-- Waiters fit when the request in hand is counted. -/
  places : state.PlaceInv ledger fun key requester requestId =>
    state.places key requester requestId +
      if request.isFor key requester requestId then 1 else 0
  others : ∀ other, other ≠ request.key → state.Steady leased other
  proper : state.ProperRequest ledger.issued request

namespace Popped

variable {state : TokenState cluster} {ledger : RequestLedger cluster}
  {leased : cluster.Host → Nat → Option TokenLease} {host : cluster.Host}

/-- A token that the host has just taken for the request in hand. -/
theorem busy {request : TokenRequest cluster} (popped : state.Popped ledger leased request)
    {tokenEpoch : Nat} {object : LocalObject cluster}
    (same : object.pending = (state.localObject host request.key).pending)
    (busy : (state.setLocal host request.key object).BusyAt leased host request.key tokenEpoch)
    (elsewhere : ∀ other, other ≠ host → (state.localObject other request.key).pending = []) :
    (state.setLocal host request.key object).SafeBusy ledger leased host request.key tokenEpoch
      (request ::
        ((state.setLocal host request.key object).localObject host request.key).pending) := by
  have live := (popped.places.drawn _ _ _ popped.proper.issued).1
  have pending : ((state.setLocal host request.key object).localObject host request.key).pending =
      (state.localObject host request.key).pending := by
    simp [same]
  refine ⟨busy, live.congr rfl, ?_, fun other apart => (popped.others other apart).setLocal_of_ne
    apart _, ?_, ?_, ?_, by simp⟩
  · refine (popped.places.setLocal _ _ _ fun entry member => .inl (same ▸ member)).recounted ?_
    intro other requester requestId
    rw [withQueue_places_cons _ _ rfl, withQueue_self]
    congr 1
    refine places_congr other requester requestId (by simp) fun otherHost => ?_
    by_cases mine : otherHost = host ∧ other = request.key
    · obtain ⟨rfl, rfl⟩ := mine
      exact pending
    · simp [mine]
  · intro other apart
    simpa [apart] using elsewhere other apart
  · intro entry member
    rcases List.mem_cons.mp member with same | old
    · rw [same]
    · exact busy.inv.pendingKeys host request.key entry old
  · intro entry member
    rcases List.mem_cons.mp member with same | old
    · rw [same]
      exact popped.proper.mono fun _ => Nat.le_refl _
    · rw [pending] at old
      exact (popped.places.pending host request.key entry old).mono fun _ => Nat.le_refl _

/-- Taking an idle or landed token for the request in hand answers it. -/
theorem grant {request : TokenRequest cluster} (popped : state.Popped ledger leased request)
    {tokenEpoch : Nat} {object : LocalObject cluster}
    (same : object.pending = (state.localObject host request.key).pending)
    (busy : (state.setLocal host request.key object).BusyAt leased host request.key tokenEpoch)
    (elsewhere : ∀ other, other ≠ host → (state.localObject other request.key).pending = [])
    (even : (state.block request.key).writebackEpoch % 2 = 0) :
    (TokenState.grant (fun late state => state.release host late false)
        (state.setLocal host request.key object) host request.key request).1 = .ok ∧
      (TokenState.grant (fun late state => state.release host late false)
        (state.setLocal host request.key object) host request.key request).2.SafeInv ledger
          leased := by
  have safe := popped.busy same busy elsewhere
  have served := grant_release_served (state.setLocal host request.key object) request
    safe.live rfl even busy.owner (busy.inv.pendingKeys host request.key)
  exact served.safe safe even

theorem handleRequest {request : TokenRequest cluster}
    (popped : state.Popped ledger leased request) (steady : state.Steady leased request.key) :
    (state.handleRequest host request).1 = .ok ∧
      (state.handleRequest host request).2.SafeInv ledger leased := by
  obtain ⟨live, positive, -⟩ := popped.places.drawn _ _ _ popped.proper.issued
  obtain ⟨phase, at_, kind, pending⟩ := steady
  rw [handleRequest_live live positive popped.proper.observed]
  split
  · rename_i remote
    refine ⟨enqueueOutbound_status state host _ _ popped.token.selfQueues remote,
      popped.token.enqueueOutbound (.request request) remote (fun _ => rfl), ?_, ?_⟩
    · refine (popped.places.enqueueOutbound host (.request request) popped.proper).recounted ?_
      intro other requester requestId
      exact enqueueOutbound_places other requester requestId host _ (.request request)
    · refine steady_of_focus request.key ?_ fun other apart =>
        (popped.others other apart).enqueueOutbound rfl
      exact Steady.enqueueOutbound ⟨phase, at_, kind, pending⟩ rfl
  · rename_i owner
    have here : (state.block request.key).tokenOwner = host := by simpa using owner
    split
    · rename_i taken
      have notIdle : phase ≠ .idle := by
        rintro rfl
        have available := (at_.available host).mpr ⟨rfl, here.symm⟩
        have held := (at_.held host).not.mpr (by simp [TokenPhase.inUse])
        simp [available, held] at taken
      refine ⟨rfl, ?_, ?_, ?_⟩
      · refine popped.token.setPending host fun entry member => ?_
        rcases List.mem_append.mp member with old | new
        · exact popped.token.pendingKeys host request.key entry old
        · rw [List.mem_singleton.mp new]
      · refine (popped.places.setLocal _ _ _ fun entry member => ?_).recounted
          (withQueue_places_append rfl)
        rcases List.mem_append.mp member with old | new
        · exact .inl old
        · rw [List.mem_singleton.mp new]
          exact .inr popped.proper
      · refine steady_of_focus _ ?_ fun other apart =>
          (popped.others other apart).setLocal_of_ne apart _
        refine ⟨phase, at_.keepFlags host rfl rfl, ?_, ?_⟩
        · exact kind.imp (fun live => ⟨live.1, live.2.congr rfl⟩)
            (fun dead => ⟨dead.1, fun live => dead.2 (live.congr rfl)⟩)
        · intro other waits
          by_cases same : other = host
          · exact ⟨same.trans here.symm, notIdle⟩
          · exact pending other (by simpa [same] using waits)
    · rename_i free
      obtain ⟨available, notHeld⟩ : (state.localObject host request.key).available = true ∧
          ¬(state.localObject host request.key).held = true := by
        simpa [not_or] using free
      obtain ⟨rfl, named⟩ := at_.idle_of_available available notHeld
      refine popped.grant rfl (popped.token.take host at_ named) ?_ (at_.even rfl)
      intro other _
      by_contra waits
      exact (pending other waits).2 rfl

end Popped

def isRequestOf (cancel : TokenCancel cluster) : Packet cluster → Bool
  | .request message =>
      message.requester = cancel.requester ∧ message.requestId = cancel.requestId
  | .grant _ | .reject _ | .cancel _ | .cancelAck _ | .application => false

/-- A cancellation reaches the owner of the token, another host than the requester, and its
request is not pending there but still under way. -/
def Overtakes (state : TokenState cluster) (host : cluster.Host) (cancel : TokenCancel cluster) :
    Prop :=
  (state.block cancel.key).tokenOwner = host ∧ host ≠ cancel.requester ∧
    (state.localObject host cancel.key).pending.any cancel.matches = false ∧
    ∃ source destination, ∃ packet ∈ state.fifo source destination,
      isRequestOf cancel packet = true

instance (state : TokenState cluster) (host : cluster.Host) (cancel : TokenCancel cluster) :
    Decidable (state.Overtakes host cancel) :=
  inferInstanceAs (Decidable (_ ∧ _))

/-- A pop leaves no new request under way. -/
theorem Overtakes.of_pop {state after : TokenState cluster} {source destination : cluster.Host}
    {packet : Packet cluster} (popped : state.pop source destination = some (packet, after))
    {host : cluster.Host} {cancel : TokenCancel cluster} (overtakes : after.Overtakes host cancel) :
    state.Overtakes host cancel := by
  obtain ⟨owner, remote, missing, from_, to_, sent, member, request⟩ := overtakes
  rw [(pop_eq_some popped).2.1] at owner
  rw [pop_localObject popped] at missing
  refine ⟨owner, remote, missing, from_, to_, sent, ?_, request⟩
  by_cases same : from_ = source ∧ to_ = destination
  · obtain ⟨rfl, rfl⟩ := same
    rw [pop_fifo popped]
    exact List.mem_cons_of_mem _ member
  · rwa [pop_fifo_of_ne popped same] at member

namespace SafeInv

variable {state after : TokenState cluster} {ledger : RequestLedger cluster}
  {leased : cluster.Host → Nat → Option TokenLease} {source destination : cluster.Host}

theorem pop_request (inv : state.SafeInv ledger leased) {request : TokenRequest cluster}
    (popped : state.pop source destination = some (.request request, after)) :
    after.Popped ledger leased request ∧ after.Steady leased request.key := by
  have steady : ∀ key, after.Steady leased key := fun key => (inv.steady key).pop popped rfl
  have proper : state.ProperRequest ledger.issued request :=
    inv.places.packets source destination (.request request) (by simp [pop_fifo popped])
  refine ⟨⟨inv.token.pop popped, ?_, fun other _ => steady other, ?_⟩, steady request.key⟩
  · exact (inv.places.pop popped).recounted fun key requester requestId =>
      pop_places key requester requestId popped
  · exact proper.mono (by simp [(pop_eq_some popped).2.1])

theorem deliver_grant (inv : state.SafeInv ledger leased) {message : TokenGrant cluster}
    (popped : state.pop source destination = some (.grant message, after)) :
    (after.handleGrant destination message).1 = .ok ∧
      (after.handleGrant destination message).2.SafeInv ledger leased := by
  obtain ⟨descriptor, block, -⟩ := pop_eq_some popped
  obtain ⟨phase, at_, kind, pending⟩ := inv.steady message.key
  obtain ⟨rfl, owner, lost⟩ := at_.pop_grant popped rfl
  obtain ⟨-, -, addressed, epoch, version⟩ := at_.current
  obtain ⟨-, owned⟩ : message.newOwner = destination ∧
      ledger.issued destination message.requestId = some message.key :=
    inv.places.packets source destination (.grant message) (by simp [pop_fifo popped])
  have token := inv.token.pop popped
  have inHand : after.Popped ledger leased (grantRequest message) := by
    refine ⟨token, ?_, ?_, ?_⟩
    · exact (inv.places.pop popped).recounted fun key requester requestId =>
        pop_places key requester requestId popped
    · intro other apart
      refine (inv.steady other).pop popped ?_
      simp only [Packet.grantFor]
      exact if_neg (Ne.symm apart)
    · refine ⟨?_, by simp [grantRequest, block, version]⟩
      rw [← owner] at addressed
      simpa [grantRequest, addressed] using owned
  obtain ⟨live, positive, -⟩ := inHand.places.drawn _ _ _ inHand.proper.issued
  have fits := inHand.places.fits _ _ _ inHand.proper.issued
  obtain ⟨-, -, waiter, found, -⟩ := fits.of_pos (by simp [isFor_self])
  have here : message.newOwner = destination := addressed.trans owner.symm
  have found' : after.waiter destination message.requestId = some waiter := by
    rw [← here]
    exact found
  rw [handleGrant_eq_grant live here positive (by rw [block, owner])
    (by rw [block, epoch]) (by rw [block, version]) (lost.even rfl) found']
  have named : destination = (after.block message.key).tokenOwner := by rw [block, owner]
  have landed := lost.land named
    { after.localObject destination message.key with held := true, available := true } rfl rfl
  have busy : (after.setLocal destination message.key
      { after.localObject destination message.key with
        held := true, available := true }).BusyAt leased destination message.key
          (after.block message.key).tokenEpoch :=
    ⟨token.setLocal (token.pendingKeys destination message.key) landed, landed, named.symm, rfl⟩
  refine inHand.grant rfl busy ?_ (lost.even rfl)
  · intro other apart
    by_contra waits
    rw [pop_localObject popped] at waits
    exact apart ((pending other waits).1.trans owner.symm)

theorem pop (inv : state.SafeInv ledger leased) {packet : Packet cluster}
    (popped : state.pop source destination = some (packet, after))
    (noPlace : ∀ key requester requestId, packet.isFor key requester requestId = false)
    (plain : ∀ key, packet.grantFor key = none) : after.SafeInv ledger leased := by
  refine ⟨inv.token.pop popped, ?_, fun key => (inv.steady key).pop popped (plain key)⟩
  refine (inv.places.pop popped).recounted fun key requester requestId => ?_
  have counted := pop_places key requester requestId popped
  rwa [noPlace] at counted

/-- A cancellation that reaches the owner and does not overtake its request finds no place of it
but the pending queue. -/
theorem places_of_not_overtakes (inv : state.SafeInv ledger leased) {host : cluster.Host}
    {cancel : TokenCancel cluster} (met : ¬state.Overtakes host cancel)
    (owner : (state.block cancel.key).tokenOwner = host) (remote : host ≠ cancel.requester)
    (missing : (state.localObject host cancel.key).pending.any cancel.matches = false) :
    state.places cancel.key cancel.requester cancel.requestId = 0 := by
  have noRequest : ∀ source destination request, Packet.request request ∈
      state.fifo source destination → request.requester = cancel.requester →
      request.requestId ≠ cancel.requestId := fun source destination request member same sameId =>
    met ⟨owner, remote, missing, source, destination, _, member,
      by simp [isRequestOf, same, sameId]⟩
  obtain ⟨phase, at_, kind, pending⟩ := inv.steady cancel.key
  have travels : state.travelling cancel.key cancel.requester cancel.requestId = 0 := by
    refine Finset.sum_eq_zero fun route _ => ?_
    rw [List.countP_eq_zero]
    intro packet member carries
    cases packet with
    | request message =>
        obtain ⟨-, same, sameId⟩ : message.key = cancel.key ∧
            message.requester = cancel.requester ∧ message.requestId = cancel.requestId := by
          simpa [Packet.isFor, TokenRequest.isFor] using carries
        exact noRequest route.1 route.2 message member same sameId
    | grant message =>
        obtain ⟨mine, same, -⟩ : message.key = cancel.key ∧
            message.newOwner = cancel.requester ∧ message.requestId = cancel.requestId := by
          simpa [Packet.isFor] using carries
        obtain ⟨rfl, target⟩ := at_.flying_of_grant (mem_grantsFor.mpr ⟨member, mine⟩)
        obtain ⟨-, -, addressed, -⟩ := at_.current
        exact remote (owner.symm.trans (addressed.symm.trans same))
    | reject | cancel | cancelAck | application => simp [Packet.isFor] at carries
  have queues : state.queued cancel.key cancel.requester cancel.requestId = 0 := by
    refine Finset.sum_eq_zero fun other _ => ?_
    by_cases same : other = host
    · subst same
      rw [List.countP_eq_zero]
      intro request member mine
      have unmatched := List.any_eq_false.mp missing request member
      simp_all [TokenRequest.isFor, TokenCancel.matches]
    · have empty : (state.localObject other cancel.key).pending = [] := by
        by_contra waits
        exact same ((pending other waits).1.trans owner)
      simp [empty]
  rw [TokenState.places, travels, queues]

/-- Delivering a packet keeps the invariant, and the handler succeeds. -/
theorem deliver (inv : state.SafeInv ledger leased) {packet : Packet cluster}
    (popped : state.pop source destination = some (packet, after))
    (met : ∀ cancel, packet = .cancel cancel → ¬after.Overtakes destination cancel) :
    (after.handleMessage destination packet).1 = .ok ∧
      (after.handleMessage destination packet).2.SafeInv ledger leased := by
  have allLive := (inv.token.pop popped).allLive
  cases packet with
  | request request =>
      obtain ⟨inHand, steady⟩ := inv.pop_request popped
      simpa [handleMessage, allLive.not_retiring] using inHand.handleRequest steady
  | grant message =>
      simpa [handleMessage, allLive.not_retiring] using inv.deliver_grant popped
  | reject message =>
      exact (inv.places.packets source destination (.reject message)
        (by simp [pop_fifo popped])).elim
  | cancel cancel =>
      have kept := inv.pop popped (fun _ _ _ => rfl) (fun _ => rfl)
      obtain ⟨cancels, owned, settled⟩ := inv.places.packets source destination (.cancel cancel)
        (by simp [pop_fifo popped])
      rw [← pop_waiter popped] at settled
      simpa [handleMessage, allLive.not_retiring] using kept.handleCancel cancels owned settled
        (kept.places_of_not_overtakes (met cancel rfl))
  | cancelAck ack =>
      have kept := inv.pop popped (fun _ _ _ => rfl) (fun _ => rfl)
      have proper := inv.places.packets source destination (.cancelAck ack)
        (by simp [pop_fifo popped])
      have counts : after.places = state.places := by
        funext key requester requestId
        simpa [Packet.isFor] using pop_places key requester requestId popped
      have proper' : after.ProperPacket ledger after.places destination (.cancelAck ack) := by
        simpa [ProperPacket, pop_waiter popped, counts] using proper
      simpa [handleMessage, allLive.not_retiring] using kept.handleCancelAck proper'
  | application => exact ⟨rfl, inv.pop popped (fun _ _ _ => rfl) (fun _ => rfl)⟩

/-! ## Operations -/

/-- Drawing an identifier leaves a request in hand. -/
theorem issue (inv : state.SafeInv ledger leased) {host : cluster.Host} {key : BlockKey}
    (live : state.Live key) (activate : Bool)
    (unreturned : ledger.returned host (state.nextRequestId host) = none) :
    (state.issue host key.object).Popped
      { ledger with
        issued := updateEntry ledger.issued host (state.nextRequestId host) (some key) }
      leased (state.requestMessage host key activate) := by
  have fresh : ledger.issued host (state.nextRequestId host) = none := by
    by_contra drawn
    obtain ⟨other, found⟩ := Option.ne_none_iff_exists'.mp drawn
    exact (inv.places.drawn host _ other found).2.2.ne rfl
  obtain ⟨unused, empty⟩ := inv.places.unissued host _ fresh
  have elsewhere : ∀ {other requestId}, ledger.issued other requestId ≠ none →
      ¬(other = host ∧ requestId = state.nextRequestId host) := by
    rintro other requestId drawn ⟨rfl, rfl⟩
    exact drawn fresh
  have foreign : ∀ otherKey other requestId,
      ¬(other = host ∧ requestId = state.nextRequestId host) →
      (state.requestMessage host key activate).isFor otherKey other requestId = false := by
    intro otherKey other requestId apart
    refine decide_eq_false ?_
    rintro ⟨-, same, sameId⟩
    exact apart ⟨same.symm, sameId.symm⟩
  have mine : (state.requestMessage host key activate).isFor key host (state.nextRequestId host) =
      true := isFor_self (state.requestMessage host key activate)
  have extends_ : ∀ {other requestId otherKey}, ledger.issued other requestId = some otherKey →
      updateEntry ledger.issued host (state.nextRequestId host) (some key) other requestId =
        some otherKey := by
    intro other requestId otherKey found
    rw [updateEntry_apply, if_neg (elsewhere (by simp [found])), found]
  refine ⟨inv.token.issue host key.object, ⟨?_, ?_, ?_, ?_, ?_, ?_⟩,
    fun other _ => (inv.steady other).issue key.object unused, ?_, Nat.le_refl _⟩
  · intro other requestId otherKey found
    by_cases same : other = host ∧ requestId = state.nextRequestId host
    · obtain ⟨rfl, rfl⟩ := same
      obtain rfl : key = otherKey := by simpa using found
      exact ⟨live.congr rfl, inv.places.positive other, by simp⟩
    · obtain ⟨otherLive, positive, below⟩ := inv.places.drawn other requestId otherKey
        (by simpa [same] using found)
      refine ⟨otherLive.congr rfl, positive, ?_⟩
      rw [issue_nextRequestId]
      split
      · rename_i here
        rw [here] at below
        omega
      · exact below
  · intro other requestId missing
    have apart : ¬(other = host ∧ requestId = state.nextRequestId host) := by
      rintro ⟨rfl, rfl⟩
      simp at missing
    obtain ⟨waiter, zero⟩ := inv.places.unissued other requestId (by simpa [apart] using missing)
    exact ⟨by simpa [apart] using waiter, fun otherKey => by
      simp [zero, foreign otherKey other requestId apart]⟩
  · intro other requestId otherKey found
    by_cases same : other = host ∧ requestId = state.nextRequestId host
    · obtain ⟨rfl, rfl⟩ := same
      obtain rfl : key = otherKey := by simpa using found
      simp [WaiterFits, freshWaiter, unreturned, empty key, mine]
    · have fits := inv.places.fits other requestId otherKey (by simpa [same] using found)
      simpa [same, foreign otherKey other requestId same] using fits
  · intro source destination packet member
    have proper := inv.places.packets source destination packet (by simpa using member)
    cases packet with
    | request message => exact ⟨extends_ proper.issued, proper.observed⟩
    | grant message => exact ⟨proper.1, extends_ proper.2⟩
    | reject message => exact proper
    | cancel message =>
        refine ⟨proper.1, extends_ proper.2.1, ?_⟩
        rw [issue_waiter, if_neg (elsewhere (by simp [proper.2.1]))]
        exact proper.2.2
    | cancelAck message =>
        obtain ⟨cancels, addressed, found, settled, zero⟩ := proper
        have apart : ¬(destination = host ∧ message.requestId = state.nextRequestId host) :=
          elsewhere (by simp [found])
        refine ⟨cancels, addressed, extends_ found, ?_, fun reason => ?_⟩
        · rw [issue_waiter, if_neg apart]
          exact settled
        · simp [foreign _ _ _ apart, zero reason]
    | application => trivial
  · intro other otherKey request member
    have proper := inv.places.pending other otherKey request (by simpa using member)
    exact ⟨extends_ proper.issued, proper.observed⟩
  · intro other
    have positive := inv.places.positive other
    rw [issue_nextRequestId]
    split <;> omega
  · simp [requestMessage]

theorem request (inv : state.SafeInv ledger leased) {host : cluster.Host} {key : BlockKey}
    (live : state.Live key) (activate : Bool)
    (unreturned : ledger.returned host (state.nextRequestId host) = none) :
    (state.request host key activate).1 = .ok ⟨key, state.nextRequestId host⟩ ∧
      (state.request host key activate).2.SafeInv
        { ledger with
          issued := updateEntry ledger.issued host (state.nextRequestId host) (some key) }
        leased := by
  have inHand := inv.issue live activate unreturned
  have fresh : ledger.issued host (state.nextRequestId host) = none := by
    by_contra drawn
    obtain ⟨other, found⟩ := Option.ne_none_iff_exists'.mp drawn
    exact (inv.places.drawn host _ other found).2.2.ne rfl
  have unused := (inv.places.unissued host _ fresh).1
  rw [request_live live inv.token.selfQueues (inv.places.positive host)]
  · exact ⟨rfl, (inHand.handleRequest ((inv.steady key).issue key.object unused)).2⟩
  · intro available notHeld
    obtain ⟨phase, at_⟩ := inv.token.phases key
    obtain ⟨rfl, -⟩ := at_.idle_of_available available (by simp [notHeld])
    exact at_.even rfl

/-- The waiter of a request loses its lease or its record with the last place. -/
theorem dropWaiter (inv : state.SafeInv ledger leased) (cancels : ledger.cancels = true)
    {host : cluster.Host} {requestId : Nat} {waiter : Waiter}
    (found : state.waiter host requestId = some waiter)
    (finished : waiter.state = .rejected ∨ waiter.state = .cancelled) :
    (state.setWaiter host requestId none).SafeInv ledger leased := by
  cases owned : ledger.issued host requestId with
  | none => simp [(inv.places.unissued host requestId owned).1] at found
  | some key =>
      have fits := inv.places.fits host requestId key owned
      have zero : state.places key host requestId = 0 := by
        rcases finished with rejected | cancelled <;> simp_all [WaiterFits]
      refine inv.changeWaiter owned ?_ none trivial ⟨zero, .inl cancels⟩
      rcases finished with rejected | cancelled <;> simp_all [grantedLease]

theorem sendCancel (inv : state.SafeInv ledger leased) (cancels : ledger.cancels = true)
    {host destination : cluster.Host}
    {message : TokenCancel cluster}
    (owned : ledger.issued message.requester message.requestId = some message.key)
    (settled : Settled (state.waiter message.requester message.requestId))
    (mine : message.requester = host) :
    (state.sendCancel host destination message).2.SafeInv ledger leased := by
  simp only [TokenState.sendCancel]
  split
  · exact (inv.handleCancel cancels owned settled (fun _ remote => (remote mine.symm).elim)).2
  · rename_i remote
    exact (inv.enqueueOutbound (.cancel message) remote ⟨cancels, owned, settled⟩
      (fun _ _ _ => rfl) (fun _ => rfl)).2

theorem cancel (inv : state.SafeInv ledger leased) (cancels : ledger.cancels = true)
    {host : cluster.Host} (handle : TokenRequestHandle)
    (owned : ledger.issued host handle.requestId = some handle.key) :
    (state.cancel host handle).2.SafeInv ledger leased := by
  obtain ⟨live, -, -⟩ := inv.places.drawn host handle.requestId handle.key owned
  have fits := inv.places.fits host handle.requestId handle.key owned
  simp only [TokenState.cancel]
  split
  · exact inv
  · rename_i waiter found
    cases phase : waiter.state with
    | granted => exact ((inv.busy_of_waiter cancels found phase).release_unmodified rfl rfl).2
    | rejected => exact inv.dropWaiter cancels found (.inl phase)
    | cancelled => exact inv.dropWaiter cancels found (.inr phase)
    | active | cancelling =>
        have bound := fits.le_one
        rw [found] at fits
        have marked := inv.changeWaiter owned (by simp [found, grantedLease, phase])
          (some { waiter with abandoned := true, state := .cancelling })
            (by simp [Settled]) ⟨fits.1, cancels, rfl, bound⟩
        have retiring : (state.setWaiter host handle.requestId (some
            { waiter with abandoned := true, state := .cancelling })).isRetiring
              handle.key.object = false := marked.token.allLive.not_retiring _
        have live' : (state.setWaiter host handle.requestId (some
            { waiter with abandoned := true, state := .cancelling })).Live handle.key :=
          live.congr rfl
        simp only [retiring, live'.target, Status.isOk_ok, not_true_eq_false, if_false,
          Bool.false_eq_true]
        have settled : Settled ((state.setWaiter host handle.requestId (some
            { waiter with abandoned := true, state := .cancelling })).waiter host
              handle.requestId) := by
          simp [Settled]
        exact marked.sendCancel cancels owned settled rfl

theorem cancelAndWait (inv : state.SafeInv ledger leased) (cancels : ledger.cancels = true)
    {host : cluster.Host} (handle : TokenRequestHandle)
    (owned : ledger.issued host handle.requestId = some handle.key) :
    (state.cancelAndWait host handle).2.SafeInv ledger leased := by
  have fits := inv.places.fits host handle.requestId handle.key owned
  simp only [TokenState.cancelAndWait]
  split
  · exact inv
  · rename_i waiter found
    have sameLease : grantedLease (some { waiter with retainCompletion := true }) =
        grantedLease (state.waiter host handle.requestId) := by
      simp [found, grantedLease]
    refine SafeInv.cancel ⟨inv.token.keepWaiter host handle.requestId sameLease, ?_, ?_⟩ cancels
      handle owned
    · refine (inv.places.setWaiter owned _ ?_ (fun _ _ _ => Nat.le_refl _)
        (fun _ _ _ _ => rfl) ?_).recounted (by simp)
      · simp [found, Settled]
      · rw [found] at fits
        exact fits
    · intro key
      refine (inv.steady key).setWaiter _ ?_
      rw [sameLease]
      rfl

theorem awaitCancel (inv : state.SafeInv ledger leased) (cancels : ledger.cancels = true)
    (host : cluster.Host) (handle : TokenRequestHandle) :
    (state.awaitCancel host handle).2.SafeInv ledger leased := by
  simp only [TokenState.awaitCancel]
  split
  · exact inv
  · rename_i waiter found
    cases phase : waiter.state with
    | granted => exact ((inv.busy_of_waiter cancels found phase).release_unmodified rfl rfl).2
    | rejected => exact inv.dropWaiter cancels found (.inl phase)
    | cancelled => exact inv.dropWaiter cancels found (.inr phase)
    | active | cancelling => exact inv

theorem beginWriteback (inv : state.SafeInv ledger leased) (host : cluster.Host)
    (lease : TokenLease) : (state.beginWriteback host lease).2.SafeInv ledger leased := by
  have token := inv.token.beginWriteback host lease
  simp only [TokenState.beginWriteback, activateWriter] at token ⊢
  split
  · rename_i accepted
    split
    · rename_i even
      simp only [accepted, even, if_true] at token
      refine ⟨token, (inv.places.setBlock ?_).recounted (by simp), ?_⟩
      · exact Nat.le_refl _
      · refine steady_of_focus _ ?_ fun other apart => (inv.steady other).setBlock_of_ne apart _
        obtain ⟨phase, at_, kind, pending⟩ := inv.steady lease.key
        have held := held_of_leaseStatus accepted
        refine ⟨phase, at_.write ((at_.held host).mp held).1 rfl rfl, ?_, ?_⟩
        · exact kind.imp (fun live => ⟨live.1, live.2.congr rfl⟩)
            (fun dead => ⟨dead.1, fun live => dead.2 (live.congr rfl)⟩)
        · simpa using pending
    · exact inv
  · exact inv

theorem progressOutbound (inv : state.SafeInv ledger leased) (host : cluster.Host) :
    (state.progressOutbound host).2.SafeInv ledger leased := by
  refine ⟨inv.token.progressOutbound host, ?_, fun key => (inv.steady key).progressOutbound⟩
  refine (inv.places.congr (by simp) (by simp) (by simp) (by simp) ?_ ?_).recounted (by simp)
  · intro source destination packet member
    exact .inl (by simpa using member)
  · intro other key request member
    exact .inl (by simpa using member)

/-- A finished wait returns the lease and closes the request. -/
theorem wait (inv : state.SafeInv ledger leased) {host : cluster.Host} {requestId : Nat}
    {waiter : Waiter} (found : state.waiter host requestId = some waiter)
    (granted : waiter.state = .granted) (unleased : leased host requestId = none) :
    (state.setWaiter host requestId none).SafeInv
      { ledger with
        returned := updateEntry ledger.returned host requestId (some waiter.lease) }
      (updateEntry leased host requestId (some waiter.lease)) := by
  have busy := inv.token.busy_of_waiter host found granted none rfl
  have lease : state.leaseFor leased waiter.lease.key (.waiter host requestId) =
      some waiter.lease := by
    simp [leaseFor, found, grantedLease, granted]
  obtain ⟨live, elsewhere⟩ := inv.of_lease lease
  have settled : ∀ other otherId, Settled (state.waiter other otherId) →
      Settled ((state.setWaiter host requestId none).waiter other otherId) := by
    intro other otherId old
    rw [setWaiter_waiter]
    split
    · trivial
    · exact old
  refine ⟨busy.leaseTo requestId rfl rfl, ⟨?_, ?_, ?_, ?_, ?_, ?_⟩, ?_⟩
  · intro other otherId key drawn
    obtain ⟨otherLive, positive, below⟩ := inv.places.drawn other otherId key drawn
    exact ⟨otherLive.congr rfl, positive, by simpa using below⟩
  · intro other otherId missing
    obtain ⟨none_, zero⟩ := inv.places.unissued other otherId missing
    refine ⟨?_, by simpa using zero⟩
    rw [setWaiter_waiter]
    split
    · rfl
    · exact none_
  · intro other otherId key drawn
    have fits := inv.places.fits other otherId key drawn
    by_cases same : other = host ∧ otherId = requestId
    · obtain ⟨rfl, rfl⟩ := same
      have zero : state.places key other otherId = 0 := by simp_all [WaiterFits]
      simp [WaiterFits, zero]
    · simpa [same] using fits
  · intro source destination packet member
    have proper := inv.places.packets source destination packet (by simpa using member)
    cases packet with
    | request message => exact ⟨proper.issued, proper.observed⟩
    | grant message | reject message => exact proper
    | cancel message => exact ⟨proper.1, proper.2.1, settled _ _ proper.2.2⟩
    | cancelAck message =>
        obtain ⟨cancels, addressed, drawn, old, zero⟩ := proper
        exact ⟨cancels, addressed, drawn, settled _ _ old, by simpa using zero⟩
    | application => trivial
  · intro other key request member
    have proper := inv.places.pending other key request (by simpa using member)
    exact ⟨proper.issued, proper.observed⟩
  · simpa using inv.places.positive
  · refine steady_of_focus waiter.lease.key ?_ fun other apart => ?_
    · refine ⟨_, busy.busy.leaseTo busy.owner.symm rfl busy.epoch.symm,
        .inl ⟨rfl, live.congr rfl⟩, ?_⟩
      intro other waits
      refine ⟨?_, by simp⟩
      by_contra apart
      exact waits (by simpa using elsewhere other apart)
    · refine ((inv.steady other).setWaiter none ?_).updateEntry ?_
      · simp [leaseFor, found, grantedLease, granted, Option.filter, Ne.symm apart]
      · simp [leaseFor, unleased, Option.filter, Ne.symm apart]

end SafeInv

end Cxloom.LoomMem.TokenState
