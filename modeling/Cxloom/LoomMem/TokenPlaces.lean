import Cxloom.LoomMem.TokenExclusion
import Mathlib.Algebra.BigOperators.Group.Finset.Piecewise
import Mathlib.Data.Fintype.Prod

/-!
# Where a token request is

A request that was not yet answered is somewhere: in a `TOKEN_REQ` under way, in a pending queue,
or turned into a `TOKEN_GRANT` under way.  This file counts these places and says how each update
of the state changes the count.
-/

namespace Cxloom.LoomMem

/-- Two families that agree except at one index have sums that differ by that entry. -/
theorem sum_add_of_agree {ι : Type} [Fintype ι] [DecidableEq ι] (first second : ι → Nat)
    (index : ι) (agree : ∀ other, other ≠ index → second other = first other) :
    ∑ i, second i + first index = ∑ i, first i + second index := by
  have rest : ∑ i ∈ Finset.univ.erase index, second i = ∑ i ∈ Finset.univ.erase index, first i :=
    Finset.sum_congr rfl fun other member => agree other (Finset.ne_of_mem_erase member)
  rw [← Finset.add_sum_erase _ second (Finset.mem_univ index),
    ← Finset.add_sum_erase _ first (Finset.mem_univ index), rest]
  omega

variable {cluster : Cluster}

def TokenRequest.isFor (key : BlockKey) (requester : cluster.Host) (requestId : Nat)
    (request : TokenRequest cluster) : Bool :=
  request.key = key ∧ request.requester = requester ∧ request.requestId = requestId

def Packet.isFor (key : BlockKey) (requester : cluster.Host) (requestId : Nat) :
    Packet cluster → Bool
  | .request message => message.isFor key requester requestId
  | .grant message =>
      message.key = key ∧ message.newOwner = requester ∧ message.requestId = requestId
  | .reject _ | .cancel _ | .cancelAck _ | .application => false

namespace TokenState

/-- Packets under way or deferred that carry a request or its grant. -/
def travelling (state : TokenState cluster) (key : BlockKey) (requester : cluster.Host)
    (requestId : Nat) : Nat :=
  ∑ route : cluster.Host × cluster.Host,
    (state.fifo route.1 route.2).countP (Packet.isFor key requester requestId)

def queued (state : TokenState cluster) (key : BlockKey) (requester : cluster.Host)
    (requestId : Nat) : Nat :=
  ∑ host : cluster.Host,
    (state.localObject host key).pending.countP (TokenRequest.isFor key requester requestId)

def places (state : TokenState cluster) (key : BlockKey) (requester : cluster.Host)
    (requestId : Nat) : Nat :=
  state.travelling key requester requestId + state.queued key requester requestId

section Updates

variable (state after : TokenState cluster) (key : BlockKey) (requester : cluster.Host)
  (requestId : Nat)

theorem travelling_congr (fifos : ∀ source destination,
    (after.fifo source destination).countP (Packet.isFor key requester requestId) =
      (state.fifo source destination).countP (Packet.isFor key requester requestId)) :
    after.travelling key requester requestId = state.travelling key requester requestId :=
  Finset.sum_congr rfl fun route _ => fifos route.1 route.2

theorem queued_congr (pending : ∀ host,
    (after.localObject host key).pending = (state.localObject host key).pending) :
    after.queued key requester requestId = state.queued key requester requestId :=
  Finset.sum_congr rfl fun host _ => by rw [pending]

variable {state after}

theorem places_congr
    (fifos : ∀ source destination, after.fifo source destination = state.fifo source destination)
    (pending : ∀ host,
      (after.localObject host key).pending = (state.localObject host key).pending) :
    after.places key requester requestId = state.places key requester requestId := by
  have travels := travelling_congr state after key requester requestId
    (fun source destination => by rw [fifos])
  rw [places, travels, queued_congr state after key requester requestId pending, places]

variable (state after)

/-- One route changes. -/
theorem travelling_change (source destination : cluster.Host)
    (others : ∀ from_ to_, ¬(from_ = source ∧ to_ = destination) →
      after.fifo from_ to_ = state.fifo from_ to_) :
    after.travelling key requester requestId +
        (state.fifo source destination).countP (Packet.isFor key requester requestId) =
      state.travelling key requester requestId +
        (after.fifo source destination).countP (Packet.isFor key requester requestId) :=
  sum_add_of_agree
    (fun route : cluster.Host × cluster.Host =>
      (state.fifo route.1 route.2).countP (Packet.isFor key requester requestId))
    (fun route => (after.fifo route.1 route.2).countP (Packet.isFor key requester requestId))
    (source, destination) fun route other => by
    rw [others route.1 route.2 fun same => other (Prod.ext same.1 same.2)]

theorem queued_change (host : cluster.Host)
    (others : ∀ other, other ≠ host →
      (after.localObject other key).pending = (state.localObject other key).pending) :
    after.queued key requester requestId +
        (state.localObject host key).pending.countP
          (TokenRequest.isFor key requester requestId) =
      state.queued key requester requestId +
        (after.localObject host key).pending.countP
          (TokenRequest.isFor key requester requestId) :=
  sum_add_of_agree
    (fun host : cluster.Host => (state.localObject host key).pending.countP
      (TokenRequest.isFor key requester requestId))
    (fun host => (after.localObject host key).pending.countP
      (TokenRequest.isFor key requester requestId)) host fun other apart => by
    rw [others other apart]

variable {state after}

@[simp] theorem setWaiter_places (host : cluster.Host) (otherId : Nat)
    (replacement : Option Waiter) :
    (state.setWaiter host otherId replacement).places key requester requestId =
      state.places key requester requestId :=
  places_congr key requester requestId (by simp) (by simp)

@[simp] theorem setBlock_places (other : BlockKey) (block : CoherenceBlockDescriptor cluster) :
    (state.setBlock other block).places key requester requestId =
      state.places key requester requestId :=
  places_congr key requester requestId (by simp) (by simp)

@[simp] theorem issue_places (host : cluster.Host) (object : GlobalPointer) :
    (state.issue host object).places key requester requestId =
      state.places key requester requestId :=
  places_congr key requester requestId (by simp) (by simp)

@[simp] theorem progressOutbound_places (host : cluster.Host) :
    (state.progressOutbound host).2.places key requester requestId =
      state.places key requester requestId :=
  places_congr key requester requestId (by simp) (by simp)

variable (state) in
/-- A local update exchanges the entries of one pending queue. -/
theorem setLocal_places (host : cluster.Host) (object : LocalObject cluster) :
    (state.setLocal host key object).places key requester requestId +
        (state.localObject host key).pending.countP
          (TokenRequest.isFor key requester requestId) =
      state.places key requester requestId +
        object.pending.countP (TokenRequest.isFor key requester requestId) := by
  have queues := queued_change state (state.setLocal host key object) key requester requestId host
    (by simp +contextual)
  have travels := travelling_congr state (state.setLocal host key object) key requester requestId
    (by simp)
  simp only [setLocal_localObject, and_self, if_true] at queues
  rw [places, places, travels]
  omega

theorem setLocal_places_of_ne {host : cluster.Host} {other : BlockKey} (apart : other ≠ key)
    (object : LocalObject cluster) :
    (state.setLocal host other object).places key requester requestId =
      state.places key requester requestId :=
  places_congr key requester requestId (by simp) (by simp [Ne.symm apart])

theorem enqueueOutbound_places (host destination : cluster.Host) (packet : Packet cluster) :
    (state.enqueueOutbound host destination packet).2.places key requester requestId =
      state.places key requester requestId +
        if packet.isFor key requester requestId then 1 else 0 := by
  have travels := travelling_change state (state.enqueueOutbound host destination packet).2 key
    requester requestId host destination (fun from_ to_ apart => by simp [apart])
  have queues := queued_congr state (state.enqueueOutbound host destination packet).2 key requester
    requestId (by simp)
  simp only [enqueueOutbound_fifo, and_self, if_true, List.countP_append, List.countP_singleton]
    at travels
  rw [places, places, queues]
  omega

/-- A popped packet takes its place along. -/
theorem pop_places {source destination : cluster.Host} {packet : Packet cluster}
    (popped : state.pop source destination = some (packet, after)) :
    after.places key requester requestId +
        (if packet.isFor key requester requestId then 1 else 0) =
      state.places key requester requestId := by
  have travels := travelling_change state after key requester requestId source destination
    (fun from_ to_ apart => pop_fifo_of_ne popped apart)
  have queues := queued_congr state after key requester requestId
    (by simp [pop_localObject popped])
  rw [pop_fifo popped, List.countP_cons] at travels
  rw [places, places, queues]
  omega

/-- The forwarded queue as packets has as many entries for a request as before. -/
theorem countP_map_request (pending : List (TokenRequest cluster)) :
    (pending.map Packet.request).countP (Packet.isFor key requester requestId) =
      pending.countP (TokenRequest.isFor key requester requestId) := by
  rw [List.countP_map]
  rfl

/-- A handoff moves the pending queue into packets and adds the grant. -/
theorem handOff_places (empty : state.SelfQueuesEmpty) {host : cluster.Host}
    {request : TokenRequest cluster} {block : BlockKey} (remote : request.requester ≠ host)
    (keys : ∀ request ∈ (state.localObject host block).pending, request.key = block) :
    (state.handOff host block request).2.places key requester requestId =
      state.places key requester requestId +
        if request.isFor key requester requestId then 1 else 0 := by
  obtain ⟨-, -, objects, fifos⟩ := handOff_spec block empty remote
  have travels := travelling_change state (state.handOff host block request).2 key requester
    requestId host request.requester
    (fun from_ to_ apart => by rw [fifos, if_neg apart])
  have grantPlace :
    (Packet.grant (state.handOffGrant block request)).isFor key requester requestId =
      request.isFor key requester requestId := rfl
  rw [fifos, if_pos ⟨rfl, rfl⟩, List.countP_append, List.countP_cons, countP_map_request,
    grantPlace] at travels
  by_cases mine : block = key
  · subst mine
    have queues := queued_change state (state.handOff host block request).2 block requester
      requestId host
      (fun other apart => by rw [objects, if_neg fun same => apart same.1])
    rw [objects, if_pos ⟨rfl, rfl⟩] at queues
    simp only [LocalObject.fresh, List.countP_nil] at queues
    rw [places, places]
    omega
  · have queues := queued_congr state (state.handOff host block request).2 key requester requestId
      (fun other => by rw [objects, if_neg fun same => mine same.2.symm])
    have foreign : (state.localObject host block).pending.countP
        (TokenRequest.isFor key requester requestId) = 0 := by
      rw [List.countP_eq_zero]
      intro entry member
      simp [TokenRequest.isFor, keys entry member, mine]
    rw [places, places, queues]
    omega

end Updates

end TokenState
end Cxloom.LoomMem
