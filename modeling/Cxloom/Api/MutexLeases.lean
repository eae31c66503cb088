import Cxloom.Api.MutexGates
import Cxloom.LoomMem.TokenPassive

/-!
# The write buffers of a distributed mutex

A handle keeps a write buffer only with a lease that its host's token service still honours, and two
handles never do so at the same time.  A request that was given up never obtains a lease.
-/

namespace Cxloom.Api

open LoomMem

variable {cluster : Cluster}

namespace MutexPhase

/-- The request of the running call, until it is collected or given up. -/
def request : MutexPhase → Option Nat
  | waiting _ _ requestId | cancelling _ _ requestId _ => some requestId
  | idle | parked _ | acquiring _ _ | awaitingCancel _ _ _ _ | synchronizing _ | undoing _ _
  | publishing _ | releasing _ _ _ | storing _ _ _ | abandoning _ _ _ _ => none

/-- The running call has stored the bytes and not released the lease. -/
def stores : MutexPhase → Bool
  | storing _ _ _ => true
  | idle | parked _ | acquiring _ _ | waiting _ _ _ | cancelling _ _ _ _ | awaitingCancel _ _ _ _
  | synchronizing _ | undoing _ _ | publishing _ | releasing _ _ _ | abandoning _ _ _ _ => false

/-- What the running call has established. -/
def Established (scene : MutexScene cluster) (issued : cluster.Host → Nat → Option BlockKey)
    (host : cluster.Host) : MutexPhase → Prop
  | waiting _ _ requestId =>
      issued host requestId = some scene.key ∧ scene.initialized host = true
  | cancelling _ _ requestId status | awaitingCancel _ _ requestId status =>
      (issued host requestId).isSome = true ∧ status ≠ .ok
  | synchronizing _ => scene.initialized host = true
  | undoing _ status => status ≠ .ok
  | releasing _ _ purpose | storing _ _ purpose => purpose = .unlock
  | abandoning _ _ _ _ => False
  | idle | parked _ | acquiring _ _ | publishing _ => True

end MutexPhase

/-- The write buffers of the handles agree with the token services. -/
structure LeaseInv (scene : MutexScene cluster) (tokens : TokenConfig cluster)
    (handles : List (MutexHandle cluster)) (phase : Nat → MutexPhase) : Prop where
  /-- The services keep their invariant. -/
  named : tokens.NamedInv
  /-- Nobody asks for a writeback epoch. -/
  inactive : tokens.state.Inactive
  reports : ∀ host requestId waiter, tokens.state.waiter host requestId = some waiter →
    waiter.Reports
  /-- The lease of a write buffer is honoured. -/
  kept : ∀ (handle : Nat) impl held, handles[handle]? = some impl → impl.lease = some held →
    tokens.leased impl.host held.requestId = some held.lease ∧ held.lease.key = scene.key
  /-- Every lease belongs to a write buffer. -/
  callers : ∀ host requestId lease, tokens.leased host requestId = some lease →
    ∃ (handle : Nat) (impl : MutexHandle cluster), handles[handle]? = some impl ∧
      impl.host = host ∧ impl.lease = some ⟨requestId, lease⟩
  single : ∀ (first second : Nat) one two, handles[first]? = some one →
    handles[second]? = some two → one.lease.isSome = true → two.lease.isSome = true →
      first = second
  /-- Every request that was not given up belongs to a running call. -/
  waiters : ∀ host requestId, ¬tokens.state.Spent host requestId →
    ∃ context, scene.contextHost context = host ∧ (phase context).request = some requestId
  /-- The writeback epoch is open only while a call stores. -/
  even : (∀ context, (phase context).stores = false) →
    (tokens.state.block scene.key).writebackEpoch % 2 = 0
  /-- Running calls rely on what they have established. -/
  established : ∀ context,
    (phase context).Established scene tokens.issued (scene.contextHost context)

namespace LeaseInv

variable {scene : MutexScene cluster} {tokens next : TokenConfig cluster}
  {handles : List (MutexHandle cluster)} {phase : Nat → MutexPhase} {context handle : Nat}
  {op : TokenOp cluster} {status : Status} {after : MutexPhase}

/-- What a call has established stays so while requests are issued. -/
theorem established_mono {issued later : cluster.Host → Nat → Option BlockKey}
    {host : cluster.Host}
    (grows : ∀ requestId key, issued host requestId = some key → later host requestId = some key)
    (holds : after.Established scene issued host) : after.Established scene later host := by
  cases after with
  | waiting => exact ⟨grows _ _ holds.1, holds.2⟩
  | cancelling | awaitingCancel =>
      obtain ⟨⟨key, found⟩, failed⟩ := holds.imp_left Option.isSome_iff_exists.mp
      exact ⟨Option.isSome_iff_exists.mpr ⟨key, grows _ key found⟩, failed⟩
  | idle | parked | acquiring | synchronizing | undoing | publishing | releasing | storing
  | abandoning => exact holds

/-- Contexts other than one stay as they are. -/
theorem stores_of_update (mine : (phase context).stores = false)
    (quiet : ∀ other, (Function.update phase context after other).stores = false) (other : Nat) :
    (phase other).stores = false := by
  by_cases same : other = context
  · rw [same, mine]
  · have still := quiet other
    rwa [Function.update_of_ne same] at still

/-- The services act without a change of the leases and without a new request. -/
theorem serve (inv : LeaseInv scene tokens handles phase)
    (performed : tokens.step op = some (status, next))
    (requests : ∀ host key activate, op ≠ .request host key activate)
    (begins : ∀ host lease, op ≠ .beginWriteback host lease)
    (leased : next.leased = tokens.leased) : LeaseInv scene next handles phase := by
  have passive := TokenConfig.step_passive inv.inactive performed requests begins
  refine ⟨TokenConfig.step_named inv.named performed, passive.inactive, ?_, ?_, ?_, inv.single, ?_,
    ?_, ?_⟩
  · intro host requestId waiter found
    obtain ⟨old, oldFound, answers⟩ := passive.waiters host requestId waiter found
    exact answers.reports (inv.reports host requestId old oldFound)
  · rw [leased]
    exact inv.kept
  · rw [leased]
    exact inv.callers
  · intro host requestId unspent
    exact inv.waiters host requestId fun spent => unspent (spent.mono passive)
  · intro quiet
    have before := inv.even quiet
    have closed := passive.epochs scene.key
    omega
  · intro other
    exact established_mono
      (fun requestId key found => TokenConfig.step_issued inv.named performed found)
      (inv.established other)

/-- A context goes on. -/
theorem setPhase (inv : LeaseInv scene tokens handles phase)
    (established : after.Established scene tokens.issued (scene.contextHost context))
    (requests : ∀ requestId, (phase context).request = some requestId →
      after.request = some requestId ∨
        tokens.state.Spent (scene.contextHost context) requestId)
    (stores : (phase context).stores = true → after.stores = true ∨
      (tokens.state.block scene.key).writebackEpoch % 2 = 0) :
    LeaseInv scene tokens handles (Function.update phase context after) := by
  refine ⟨inv.named, inv.inactive, inv.reports, inv.kept, inv.callers, inv.single, ?_, ?_, ?_⟩
  · intro host requestId unspent
    obtain ⟨other, here, requested⟩ := inv.waiters host requestId unspent
    refine ⟨other, here, ?_⟩
    by_cases mine : other = context
    · subst mine
      subst here
      rw [Function.update_self]
      exact (requests requestId requested).resolve_right unspent
    · rwa [Function.update_of_ne mine]
  · intro quiet
    cases storing : (phase context).stores with
    | true =>
        have mine := quiet context
        rw [Function.update_self] at mine
        exact (stores storing).resolve_left (by simp [mine])
    | false => exact inv.even (stores_of_update storing quiet)
  · intro other
    by_cases mine : other = context
    · subst mine
      rwa [Function.update_self]
    · rw [Function.update_of_ne mine]
      exact inv.established other

/-- A change of a handle that keeps its write buffer. -/
theorem modify (inv : LeaseInv scene tokens handles phase) (handle : Nat)
    {change : MutexHandle cluster → MutexHandle cluster}
    (same : ∀ impl, (change impl).host = impl.host ∧ (change impl).lease = impl.lease) :
    LeaseInv scene tokens (handles.modify handle change) phase := by
  have backward : ∀ (other : Nat) impl', (handles.modify handle change)[other]? = some impl' →
      ∃ impl, handles[other]? = some impl ∧ impl'.host = impl.host ∧ impl'.lease = impl.lease := by
    intro other impl' found
    by_cases here : handle = other
    · subst here
      obtain ⟨impl, old, rfl⟩ : ∃ impl, handles[handle]? = some impl ∧ change impl = impl' := by
        simpa using found
      exact ⟨impl, old, same impl⟩
    · rw [List.getElem?_modify_ne _ _ here] at found
      exact ⟨impl', found, rfl, rfl⟩
  refine ⟨inv.named, inv.inactive, inv.reports, ?_, ?_, ?_, inv.waiters, inv.even,
    inv.established⟩
  · intro other impl' held found lease
    obtain ⟨impl, old, host, sameLease⟩ := backward other impl' found
    rw [host]
    exact inv.kept other impl held old (sameLease.symm.trans lease)
  · intro host requestId lease found
    obtain ⟨other, impl, old, here, kept⟩ := inv.callers host requestId lease found
    by_cases changed : handle = other
    · exact ⟨other, change impl, by simp [changed, old], (same impl).1.trans here,
        (same impl).2.trans kept⟩
    · exact ⟨other, impl, by rw [List.getElem?_modify_ne _ _ changed, old], here, kept⟩
  · intro first second one two firstFound secondFound firstLease secondLease
    obtain ⟨_, oldFirst, -, sameFirst⟩ := backward first one firstFound
    obtain ⟨_, oldSecond, -, sameSecond⟩ := backward second two secondFound
    exact inv.single first second _ _ oldFirst oldSecond (sameFirst ▸ firstLease)
      (sameSecond ▸ secondLease)

/-- A new handle has no write buffer. -/
theorem attach (inv : LeaseInv scene tokens handles phase) (host : cluster.Host) :
    LeaseInv scene tokens (handles ++ [.fresh host]) phase := by
  have backward : ∀ (other : Nat) impl, (handles ++ [MutexHandle.fresh host])[other]? = some impl →
      impl.lease.isSome = true → handles[other]? = some impl := by
    intro other impl found lease
    rw [List.getElem?_append] at found
    split at found
    · exact found
    · rw [List.mem_singleton.mp (List.mem_of_getElem? found)] at lease
      cases lease
  refine ⟨inv.named, inv.inactive, inv.reports, ?_, ?_, ?_, inv.waiters, inv.even,
    inv.established⟩
  · intro other impl held found lease
    exact inv.kept other impl held (backward other impl found (by simp [lease])) lease
  · intro other requestId lease found
    obtain ⟨position, impl, old, rest⟩ := inv.callers other requestId lease found
    refine ⟨position, impl, ?_, rest⟩
    rw [List.getElem?_append_left (List.getElem?_eq_some_iff.mp old).1, old]
  · intro first second one two firstFound secondFound firstLease secondLease
    exact inv.single first second one two (backward first one firstFound firstLease)
      (backward second two secondFound secondLease) firstLease secondLease

/-! ## Calls of the token service -/

/-- A new request belongs to the call that made it. -/
theorem request (inv : LeaseInv scene tokens handles phase) {attempt : Bool}
    (running : phase context = .acquiring handle attempt)
    (ready : scene.initialized (scene.contextHost context) = true)
    (performed : tokens.step (.request (scene.contextHost context) scene.key false) =
      some (status, next)) (accepted : status.isOk = true) :
    LeaseInv scene next handles (Function.update phase context
      (.waiting handle attempt (tokens.state.nextRequestId (scene.contextHost context)))) := by
  have named := TokenConfig.step_named inv.named performed
  have issues := fun {host} {requestId} {key} => @TokenConfig.step_issued cluster tokens next _ _
    inv.named performed host requestId key
  obtain ⟨-, -, issued, leased, -⟩ : tokens.state.Live scene.key ∧ _ := by
    rcases TokenConfig.step_request inv.named performed with ⟨failed, -⟩ | ⟨-, rest⟩
    · rw [accepted] at failed
      cases failed
    · exact rest
  have moved :
    next.state = (tokens.state.request (scene.contextHost context) scene.key false).2 := by
    cases TokenConfig.step_effect performed <;> rfl
  have registered : ∀ host requestId waiter, next.state.waiter host requestId = some waiter →
      (host = scene.contextHost context ∧
          requestId = tokens.state.nextRequestId (scene.contextHost context)) ∧ waiter.Reports ∨
        ∃ old, tokens.state.waiter host requestId = some old ∧ TokenState.Answers old waiter := by
    intro host requestId waiter found
    rcases TokenState.Passive.request inv.inactive (scene.contextHost context) scene.key with
      same | passive
    · rw [moved, same] at found
      exact .inr ⟨waiter, found, .refl waiter⟩
    · rw [moved] at found
      obtain ⟨old, oldFound, answers⟩ := passive.waiters host requestId waiter found
      rw [TokenState.issue_waiter] at oldFound
      split at oldFound
      · rename_i here
        obtain rfl := Option.some.inj oldFound
        exact .inl ⟨here, answers.reports (by simp [Waiter.Reports, TokenState.freshWaiter])⟩
      · exact .inr ⟨old, oldFound, answers⟩
  have closed : next.state.Inactive ∧
      ((next.state.block scene.key).writebackEpoch % 2 = 1 →
        (tokens.state.block scene.key).writebackEpoch % 2 = 1) := by
    rcases TokenState.Passive.request inv.inactive (scene.contextHost context) scene.key with
      same | passive
    · rw [moved, same]
      exact ⟨inv.inactive, id⟩
    · rw [moved]
      exact ⟨passive.inactive, passive.epochs scene.key⟩
  refine ⟨named, closed.1, ?_, ?_, ?_, inv.single, ?_, ?_, ?_⟩
  · intro host requestId waiter found
    rcases registered host requestId waiter found with ⟨-, reports⟩ | ⟨old, oldFound, answers⟩
    · exact reports
    · exact answers.reports (inv.reports host requestId old oldFound)
  · rw [leased]
    exact inv.kept
  · rw [leased]
    exact inv.callers
  · intro host requestId unspent
    by_cases mine : host = scene.contextHost context ∧
        requestId = tokens.state.nextRequestId (scene.contextHost context)
    · obtain ⟨rfl, rfl⟩ := mine
      refine ⟨context, rfl, ?_⟩
      rw [Function.update_self]
      rfl
    · have before : ¬tokens.state.Spent host requestId := by
        intro spent
        apply unspent
        intro waiter found
        rcases registered host requestId waiter found with ⟨here, -⟩ | ⟨old, oldFound, answers⟩
        · exact (mine here).elim
        · exact answers.spent (spent old oldFound)
      obtain ⟨other, here, requested⟩ := inv.waiters host requestId before
      have different : other ≠ context := by
        rintro rfl
        rw [running] at requested
        cases requested
      exact ⟨other, here, by rwa [Function.update_of_ne different]⟩
  · intro quiet
    have before := inv.even (stores_of_update (by rw [running]; rfl) quiet)
    have opens := closed.2
    omega
  · intro other
    by_cases mine : other = context
    · subst mine
      rw [Function.update_self]
      refine ⟨?_, ready⟩
      rw [issued]
      simp
    · rw [Function.update_of_ne mine]
      exact established_mono (fun _ _ found => issues found) (inv.established other)

/-- A wait that returns no lease reports a failure. -/
theorem wait_failed {state : TokenState cluster} {host : cluster.Host}
    {request : TokenRequestHandle}
    (reports : ∀ waiter, state.waiter host request.requestId = some waiter → waiter.Reports)
    (failed : (state.wait host request).1 = .error status) : status.isOk = false := by
  simp only [TokenState.wait] at failed
  split at failed
  · obtain rfl := Except.error.inj failed
    rfl
  · rename_i waiter found
    cases ended : waiter.state with
    | granted =>
        rw [ended] at failed
        cases failed
    | rejected =>
        rw [ended] at failed
        obtain rfl := Except.error.inj failed
        exact reports waiter found (.inl ended)
    | cancelled =>
        rw [ended] at failed
        obtain rfl := Except.error.inj failed
        exact reports waiter found (.inr ended)
    | active | cancelling =>
        rw [ended] at failed
        obtain rfl := Except.error.inj failed
        rfl

/-- While a waiter of the block has a lease, no handle keeps a write buffer. -/
theorem unkept (inv : LeaseInv scene tokens handles phase) {host : cluster.Host} {requestId : Nat}
    {waiter : Waiter} (found : tokens.state.waiter host requestId = some waiter)
    (granted : waiter.state = .granted) (key : waiter.lease.key = scene.key) {other : Nat}
    {impl : MutexHandle cluster} (impl_ : handles[other]? = some impl) : impl.lease = none := by
  cases lease : impl.lease with
  | none => rfl
  | some held =>
      obtain ⟨leased, heldKey⟩ := inv.kept other impl held impl_ lease
      obtain ⟨tokenPhase, at_⟩ := inv.named.token.phases scene.key
      have waits : tokens.state.leaseFor tokens.leased scene.key (.waiter host requestId) =
          some waiter.lease := by
        simp [TokenState.leaseFor, TokenState.grantedLease, found, granted, key]
      have calls : tokens.state.leaseFor tokens.leased scene.key
          (.caller impl.host held.requestId) = some held.lease := by
        simp [TokenState.leaseFor, leased, heldKey]
      have phases := (at_.leased_of_lease waits).symm.trans (at_.leased_of_lease calls)
      injection phases with holders
      cases holders

/-- A wait that returns a lease gives it to the handle of the call. -/
theorem collect (inv : LeaseInv scene tokens handles phase) {attempt : Bool} {requestId : Nat}
    {impl : MutexHandle cluster} {lease : TokenLease}
    (running : phase context = .waiting handle attempt requestId)
    (found : handles[handle]? = some impl) (local_ : impl.host = scene.contextHost context)
    (performed : tokens.step (.wait (scene.contextHost context) requestId) = some (status, next))
    (accepted : status.isOk = true)
    (leased : next.leased (scene.contextHost context) requestId = some lease) :
    LeaseInv scene next (handles.modify handle (MutexWorld.setLease (some ⟨requestId, lease⟩)))
      (Function.update phase context (.synchronizing handle)) := by
  have named := TokenConfig.step_named inv.named performed
  have passive := TokenConfig.step_passive inv.inactive performed (by simp) (by simp)
  have issues := fun {host} {requestId} {key} => @TokenConfig.step_issued cluster tokens next _ _
    inv.named performed host requestId key
  obtain ⟨issued, ready⟩ : tokens.issued (scene.contextHost context) requestId = some scene.key ∧
      scene.initialized (scene.contextHost context) = true := by
    have established := inv.established context
    rw [running] at established
    exact established
  have key : lease.key = scene.key :=
    Option.some.inj ((named.leases _ _ lease leased).symm.trans (issues issued))
  cases TokenConfig.step_effect performed with
  | waitFailed _ _ waitKey _ _ failed =>
      rw [wait_failed (inv.reports _ _) failed] at accepted
      cases accepted
  | waited _ _ waitKey collected _ granted =>
      obtain rfl : collected = lease := by simpa using leased
      obtain ⟨waiter, waits, finished, rfl, gone⟩ := TokenState.wait_ok granted
      have unkept : ∀ (other : Nat) impl, handles[other]? = some impl → impl.lease = none :=
        fun other impl => inv.unkept waits finished key
      have only : ∀ (other : Nat) impl', (handles.modify handle
          (MutexWorld.setLease (some ⟨requestId, waiter.lease⟩)))[other]? = some impl' →
          impl'.lease.isSome = true →
            other = handle ∧ impl' = MutexWorld.setLease (some ⟨requestId, waiter.lease⟩) impl := by
        intro other impl' found' some_
        by_cases here : handle = other
        · subst here
          rw [List.getElem?_modify_eq, found] at found'
          exact ⟨rfl, (Option.some.inj found').symm⟩
        · rw [List.getElem?_modify_ne _ _ here] at found'
          rw [unkept other impl' found'] at some_
          cases some_
      refine ⟨named, passive.inactive, ?_, ?_, ?_, ?_, ?_, ?_, ?_⟩
      · intro host otherId other otherFound
        obtain ⟨old, oldFound, answers⟩ := passive.waiters host otherId other otherFound
        exact answers.reports (inv.reports host otherId old oldFound)
      · intro other impl' held found' lease
        obtain ⟨rfl, rfl⟩ := only other impl' found' (by simp [lease])
        obtain rfl : ⟨requestId, waiter.lease⟩ = held := by simpa [MutexWorld.setLease] using lease
        exact ⟨by simp [MutexWorld.setLease, local_], key⟩
      · intro host otherId otherLease otherFound
        simp only [updateEntry_apply] at otherFound
        split at otherFound
        · rename_i same
          obtain ⟨rfl, rfl⟩ := same
          obtain rfl := Option.some.inj otherFound
          exact ⟨handle, MutexWorld.setLease (some ⟨otherId, waiter.lease⟩) impl,
            by simp [found], local_, rfl⟩
        · obtain ⟨other, impl', old, -, kept⟩ := inv.callers host otherId otherLease otherFound
          rw [unkept other impl' old] at kept
          cases kept
      · intro first second one two firstFound secondFound firstLease secondLease
        exact (only first one firstFound firstLease).1.trans
          (only second two secondFound secondLease).1.symm
      · intro host otherId unspent
        obtain ⟨other, here, requested⟩ := inv.waiters host otherId fun spent =>
          unspent (spent.mono passive)
        have different : other ≠ context := by
          rintro rfl
          rw [running] at requested
          obtain rfl := Option.some.inj requested
          subst here
          exact unspent (.of_none (by simp [gone]))
        exact ⟨other, here, by rwa [Function.update_of_ne different]⟩
      · intro quiet
        have before := inv.even (stores_of_update (by rw [running]; rfl) quiet)
        have opens := passive.epochs scene.key
        omega
      · intro other
        by_cases mine : other = context
        · subst mine
          rw [Function.update_self]
          exact ready
        · rw [Function.update_of_ne mine]
          exact established_mono (fun _ _ found => issues found) (inv.established other)

/-- The writeback of an active lease begins. -/
theorem begin_ (inv : LeaseInv scene tokens handles phase) {impl : MutexHandle cluster}
    {held : HeldLease} (running : phase context = .releasing handle held .unlock)
    (found : handles[handle]? = some impl) (local_ : impl.host = scene.contextHost context)
    (lease : impl.lease = some held) (quiet : ∀ other, (phase other).stores = false)
    (performed : tokens.step (.beginWriteback (scene.contextHost context) held.lease) =
      some (status, next)) :
    status.isOk = true ∧ LeaseInv scene next handles
      (Function.update phase context (.storing handle held .unlock)) := by
  have named := TokenConfig.step_named inv.named performed
  obtain ⟨leased, key⟩ := inv.kept handle impl held found lease
  rw [local_] at leased
  have active := TokenConfig.leaseStatus_of_leased inv.named leased
  have even := inv.even quiet
  obtain ⟨rfl, rfl⟩ := Prod.mk.inj (Option.some.inj performed)
  have begins : tokens.state.beginWriteback (scene.contextHost context) held.lease =
      (.ok, tokens.state.setBlock scene.key { tokens.state.block scene.key with
        writebackEpoch := (tokens.state.block scene.key).writebackEpoch + 1 }) := by
    simp [TokenState.beginWriteback, active, TokenState.activateWriter, key, even]
  rw [begins] at named ⊢
  refine ⟨rfl, named, ⟨inv.inactive.packets, inv.inactive.pending⟩, inv.reports, inv.kept,
    inv.callers, inv.single, ?_, ?_, ?_⟩
  · intro host requestId unspent
    obtain ⟨other, here, requested⟩ := inv.waiters host requestId unspent
    have different : other ≠ context := by
      rintro rfl
      rw [running] at requested
      cases requested
    exact ⟨other, here, by rwa [Function.update_of_ne different]⟩
  · intro still
    have mine := still context
    rw [Function.update_self] at mine
    cases mine
  · intro other
    by_cases mine : other = context
    · subst mine
      rw [Function.update_self]
      rfl
    · rw [Function.update_of_ne mine]
      exact inv.established other

/-- The release of a handle's lease leaves the writeback epoch closed. -/
theorem released (inv : LeaseInv scene tokens handles phase) {impl : MutexHandle cluster}
    {held : HeldLease} (found : handles[handle]? = some impl)
    (local_ : impl.host = scene.contextHost context) (lease : impl.lease = some held)
    (performed : tokens.step (.release (scene.contextHost context) held.requestId true) =
      some (status, next)) :
    (next.state.block scene.key).writebackEpoch % 2 = 0 ∧ next.issued = tokens.issued ∧
      next.leased = if status.isOk then
          updateEntry tokens.leased (scene.contextHost context) held.requestId none
        else tokens.leased := by
  obtain ⟨leased, key⟩ := inv.kept handle impl held found lease
  rw [local_] at leased
  have active := TokenConfig.leaseStatus_of_leased inv.named leased
  cases TokenConfig.step_effect performed with
  | released _ _ _ presented leased' =>
      obtain rfl : presented = held.lease := Option.some.inj (leased'.symm.trans leased)
      refine ⟨?_, rfl, rfl⟩
      rw [← key]
      exact TokenState.Passive.release_closes inv.inactive (by rw [active]; rfl)

/-- A failed release keeps the write buffer. -/
theorem releaseFailed (inv : LeaseInv scene tokens handles phase) {impl : MutexHandle cluster}
    {held : HeldLease} (running : phase context = .storing handle held .unlock)
    (found : handles[handle]? = some impl) (local_ : impl.host = scene.contextHost context)
    (lease : impl.lease = some held)
    (performed : tokens.step (.release (scene.contextHost context) held.requestId true) =
      some (status, next)) (refused : status.isOk = false) :
    LeaseInv scene next handles (Function.update phase context .idle) := by
  obtain ⟨even, -, leased⟩ := inv.released found local_ lease performed
  rw [refused] at leased
  have served := inv.serve performed (by simp) (by simp) leased
  exact served.setPhase trivial (by simp [running, MutexPhase.request]) fun _ => .inr even

/-- A successful release resets the write buffer. -/
theorem release (inv : LeaseInv scene tokens handles phase) {impl : MutexHandle cluster}
    {held : HeldLease} (running : phase context = .storing handle held .unlock)
    (found : handles[handle]? = some impl) (local_ : impl.host = scene.contextHost context)
    (lease : impl.lease = some held)
    (performed : tokens.step (.release (scene.contextHost context) held.requestId true) =
      some (status, next)) (accepted : status.isOk = true) :
    LeaseInv scene next (handles.modify handle (MutexWorld.open_ ∘ MutexWorld.setLease none))
      (Function.update phase context .idle) := by
  obtain ⟨even, issued, leased⟩ := inv.released found local_ lease performed
  rw [accepted, if_pos rfl] at leased
  have passive := TokenConfig.step_passive inv.inactive performed (by simp) (by simp)
  have others : ∀ (other : Nat) impl', other ≠ handle → handles[other]? = some impl' →
      impl'.lease = none := by
    intro other impl' different found'
    cases lease' : impl'.lease with
    | none => rfl
    | some held' =>
        exact (different (inv.single other handle impl' impl found' found (by simp [lease'])
          (by simp [lease]))).elim
  have unkept : ∀ (other : Nat) impl', (handles.modify handle
      (MutexWorld.open_ ∘ MutexWorld.setLease none))[other]? = some impl' →
        impl'.lease = none := by
    intro other impl' found'
    by_cases here : handle = other
    · subst here
      rw [List.getElem?_modify_eq, found] at found'
      rw [← Option.some.inj found']
      rfl
    · rw [List.getElem?_modify_ne _ _ here] at found'
      exact others other impl' (Ne.symm here) found'
  refine ⟨TokenConfig.step_named inv.named performed, passive.inactive, ?_, ?_, ?_, ?_, ?_,
    fun _ => even, ?_⟩
  · intro host requestId waiter waits
    obtain ⟨old, oldFound, answers⟩ := passive.waiters host requestId waiter waits
    exact answers.reports (inv.reports host requestId old oldFound)
  · intro other impl' held' found' lease'
    rw [unkept other impl' found'] at lease'
    cases lease'
  · intro host requestId other otherFound
    rw [leased, updateEntry_apply] at otherFound
    split at otherFound
    · cases otherFound
    · rename_i apart
      obtain ⟨position, impl', found', here, lease'⟩ := inv.callers host requestId other otherFound
      by_cases same : position = handle
      · subst same
        obtain rfl := Option.some.inj (found.symm.trans found')
        obtain rfl := Option.some.inj (lease.symm.trans lease')
        exact (apart ⟨here.symm.trans local_, rfl⟩).elim
      · rw [others position impl' same found'] at lease'
        cases lease'
  · intro first second one two firstFound _ firstLease
    rw [unkept first one firstFound] at firstLease
    cases firstLease
  · intro host requestId unspent
    obtain ⟨other, here, requested⟩ := inv.waiters host requestId fun spent =>
      unspent (spent.mono passive)
    have different : other ≠ context := by
      rintro rfl
      rw [running] at requested
      cases requested
    exact ⟨other, here, by rwa [Function.update_of_ne different]⟩
  · intro other
    rw [issued]
    by_cases mine : other = context
    · subst mine
      rw [Function.update_self]
      trivial
    · rw [Function.update_of_ne mine]
      exact inv.established other

end LeaseInv

end Cxloom.Api
