import Cxloom.Common
import Cxloom.HostMask
import Cxloom.Run
import Mathlib.Data.List.FinRange
import Mathlib.Logic.Function.Basic

/-!
# Generation barriers

`BarrierManager` on every host of a fixed world.  Host zero coordinates: it collects one arrival
bit for each host, and when all bits of a generation are set it releases the others and advances.
Each manager call runs under the manager's mutex and is one atomic action, except that a `Wait`
which has to block is split into its arrival and its return.  Messages may be delivered in any
order and any number of times.
-/

namespace Cxloom.LoomPar

def generationModulus : Nat := 2 ^ 64

/-- The message kinds that reach a barrier manager. -/
inductive BarrierMessageKind
  | arrive
  | release
deriving DecidableEq, Repr

/-- A message from one manager to another. -/
structure BarrierMessage (cluster : Cluster) where
  /-- Arrival or release. -/
  kind : BarrierMessageKind
  source : cluster.Host
  target : cluster.Host
  /-- Barrier identifier. -/
  id : Nat
  /-- Generation of the sender's entry. -/
  generation : Nat
  /-- Whether the sender's entry is broken. -/
  failed : Bool
deriving DecidableEq

/-- The local record of one barrier. -/
structure BarrierEntry where
  generation : Nat
  /-- Participant count of the local callers, zero before the first call. -/
  localParticipants : Nat
  localArrivals : Nat
  hostArrivals : HostMask
  /-- Whether the local arrivals are complete. -/
  reported : Bool
  /-- Sticky failure. -/
  broken : Bool
deriving DecidableEq

namespace BarrierEntry

variable {cluster : Cluster}

/-- The entry created by the first use of an identifier. -/
def fresh : BarrierEntry := ⟨0, 0, 0, 0#64, false, false⟩

/-- Start the next generation. -/
def advance (entry : BarrierEntry) : BarrierEntry :=
  { entry with
    generation := (entry.generation + 1) % generationModulus
    localArrivals := 0
    hostArrivals := 0#64
    reported := false }

/-- Fail the entry and tell every other host, once. -/
def breakLocked (entry : BarrierEntry) (localHost : cluster.Host) (id : Nat) :
    BarrierEntry × List (BarrierMessage cluster) :=
  if entry.broken then (entry, [])
  else
    ({ entry with broken := true },
      ((List.finRange cluster.hostCount).filter fun host => host ≠ localHost).map fun host =>
        ⟨.release, localHost, host, id, entry.generation, true⟩)

/-- Record one arrived host on the coordinator and release a complete generation. -/
def arriveLocked (entry : BarrierEntry) (localHost : cluster.Host) (id : Nat)
    (source : cluster.Host) : BarrierEntry × List (BarrierMessage cluster) :=
  let arrivals := entry.hostArrivals ||| HostMask.bit source
  if arrivals ≠ HostMask.all cluster.hostCount then ({ entry with hostArrivals := arrivals }, [])
  else
    (({ entry with hostArrivals := arrivals } : BarrierEntry).advance,
      ((List.finRange cluster.hostCount).filter fun host => 0 < host.val).map fun host =>
        ⟨.release, localHost, host, id, entry.generation, false⟩)

/-- The part of `Wait` before it blocks.  The outcome is the generation to wait for or the status
of a call that does not wait. -/
def wait (entry : BarrierEntry) (localHost : cluster.Host) (id participants : Nat) :
    Except Status Nat × BarrierEntry × List (BarrierMessage cluster) :=
  if participants = 0 then
    (.error (.invalidArgument "barrier requires positive local participant count"), entry, [])
  else if entry.broken then
    (.error (.failedPrecondition "barrier is broken"), entry, [])
  else if entry.localParticipants ≠ 0 ∧ entry.localParticipants ≠ participants then
    (.error (.invalidArgument "local participant count cannot change for a barrier ID"),
      entry.breakLocked localHost id)
  else
    let entry := { entry with localParticipants := participants }
    if entry.reported then
      (.error (.failedPrecondition "too many local barrier participants"),
        entry.breakLocked localHost id)
    else
      let generation := entry.generation
      let entry := { entry with localArrivals := entry.localArrivals + 1 }
      if entry.localArrivals = participants then
        let entry := { entry with reported := true }
        if localHost.val = 0 then (.ok generation, entry.arriveLocked localHost id localHost)
        else
          (.ok generation, entry,
            [⟨.arrive, localHost, ⟨0, cluster.hostCount_pos⟩, id, generation, false⟩])
      else (.ok generation, entry, [])

/-- The entry after a `Wait` has announced its count and was counted. -/
def counted (entry : BarrierEntry) (participants : Nat) : BarrierEntry :=
  { entry with
    localParticipants := participants
    localArrivals := entry.localArrivals + 1 }

/-- Everything the first part of a `Wait` can do. -/
inductive WaitOutcome (entry : BarrierEntry) (localHost : cluster.Host) (id participants : Nat) :
    Except Status Nat × BarrierEntry × List (BarrierMessage cluster) → Prop
  | refused (status : Status) :
    WaitOutcome entry localHost id participants (.error status, entry, [])
  | mismatch (status : Status) (unbroken : entry.broken = false)
      (announced : entry.localParticipants ≠ 0) (other : entry.localParticipants ≠ participants) :
      WaitOutcome entry localHost id participants
        (.error status, entry.breakLocked localHost id)
  | overfull (status : Status) (unbroken : entry.broken = false) (positive : 0 < participants)
      (announced : entry.localParticipants = 0 ∨ entry.localParticipants = participants)
      (reported : entry.reported = true) :
      WaitOutcome entry localHost id participants
        (.error status,
          ({ entry with localParticipants := participants } : BarrierEntry).breakLocked localHost
            id)
  | arrived (unbroken : entry.broken = false) (positive : 0 < participants)
      (announced : entry.localParticipants = 0 ∨ entry.localParticipants = participants)
      (unreported : entry.reported = false) (missing : entry.localArrivals + 1 ≠ participants) :
      WaitOutcome entry localHost id participants
        (.ok entry.generation, entry.counted participants, [])
  | coordinated (unbroken : entry.broken = false) (positive : 0 < participants)
      (announced : entry.localParticipants = 0 ∨ entry.localParticipants = participants)
      (unreported : entry.reported = false) (complete : entry.localArrivals + 1 = participants)
      (coordinator : localHost.val = 0) :
      WaitOutcome entry localHost id participants
        (.ok entry.generation,
          ({ entry.counted participants with reported := true } : BarrierEntry).arriveLocked
            localHost id localHost)
  | reported (unbroken : entry.broken = false) (positive : 0 < participants)
      (announced : entry.localParticipants = 0 ∨ entry.localParticipants = participants)
      (unreported : entry.reported = false) (complete : entry.localArrivals + 1 = participants)
      (member : localHost.val ≠ 0) :
      WaitOutcome entry localHost id participants
        (.ok entry.generation, { entry.counted participants with reported := true },
          [⟨.arrive, localHost, ⟨0, cluster.hostCount_pos⟩, id, entry.generation, false⟩])

theorem wait_outcome (entry : BarrierEntry) (localHost : cluster.Host) (id participants : Nat) :
    WaitOutcome entry localHost id participants (entry.wait localHost id participants) := by
  rw [wait]
  split
  · exact .refused _
  · rename_i nonzero
    have positive := Nat.pos_of_ne_zero nonzero
    split
    · exact .refused _
    · rename_i notBroken
      have unbroken : entry.broken = false := by simpa using notBroken
      split
      · rename_i differs
        exact .mismatch _ unbroken differs.1 differs.2
      · rename_i matching
        have announced : entry.localParticipants = 0 ∨ entry.localParticipants = participants := by
          by_contra neither
          exact matching (not_or.mp neither)
        dsimp only
        split
        · rename_i full
          exact .overfull _ unbroken positive announced full
        · rename_i notReported
          have unreported : entry.reported = false := by simpa using notReported
          split
          · rename_i complete
            split
            · rename_i coordinator
              exact .coordinated unbroken positive announced unreported complete coordinator
            · rename_i member
              exact .reported unbroken positive announced unreported complete member
          · rename_i missing
            exact .arrived unbroken positive announced unreported missing

/-- The return of a blocked `Wait`, once the entry is broken or has left the generation. -/
def awake (entry : BarrierEntry) (generation : Nat) : Option Status :=
  if entry.broken then some (.failedPrecondition "barrier is broken")
  else if entry.generation ≠ generation then some .ok
  else none

/-- Process one message on its target. -/
def handle (entry : BarrierEntry) (message : BarrierMessage cluster) :
    Status × BarrierEntry × List (BarrierMessage cluster) :=
  if message.failed then
    if message.kind ≠ .release then
      (.invalidArgument "invalid barrier failure", entry, [])
    else (.ok, { entry with broken := true }, [])
  else if entry.broken ∨ message.generation < entry.generation then (.ok, entry, [])
  else if message.generation ≠ entry.generation then
    (.ok, entry.breakLocked message.target message.id)
  else if message.kind = .arrive ∧ message.target.val = 0 ∧ message.source.val ≠ 0 then
    (.ok, entry.arriveLocked message.target message.id message.source)
  else if message.kind = .release ∧ message.target.val ≠ 0 ∧ message.source.val = 0 ∧
      entry.reported then
    (.ok, entry.advance, [])
  else (.ok, entry.breakLocked message.target message.id)

/-! Whatever is sent carries the identifier it was sent for. -/

theorem breakLocked_id {entry : BarrierEntry} {host : cluster.Host} {id : Nat} :
    ∀ message ∈ (entry.breakLocked host id).2, message.id = id := by
  intro message member
  simp only [breakLocked] at member
  split at member
  · simp at member
  · obtain ⟨target, -, rfl⟩ := List.mem_map.mp member
    rfl

theorem arriveLocked_id {entry : BarrierEntry} {host source : cluster.Host} {id : Nat} :
    ∀ message ∈ (entry.arriveLocked host id source).2, message.id = id := by
  intro message member
  simp only [arriveLocked] at member
  split at member
  · simp at member
  · obtain ⟨target, -, rfl⟩ := List.mem_map.mp member
    rfl

/-- A call only sends messages of its own identifier. -/
theorem wait_id {entry : BarrierEntry} {host : cluster.Host} {id participants : Nat} :
    ∀ message ∈ (entry.wait host id participants).2.2, message.id = id := by
  have outcome := entry.wait_outcome host id participants
  generalize entry.wait host id participants = result at outcome ⊢
  cases outcome with
  | refused => simp
  | mismatch | overfull => exact breakLocked_id
  | arrived => simp
  | coordinated => exact arriveLocked_id
  | reported => simp

/-- A delivery only sends messages of its own identifier. -/
theorem handle_id {entry : BarrierEntry} {message : BarrierMessage cluster} :
    ∀ sent ∈ (entry.handle message).2.2, sent.id = message.id := by
  simp only [handle]
  split
  · split <;> simp
  · split
    · simp
    · split
      · exact breakLocked_id
      · split
        · exact arriveLocked_id
        · split
          · simp
          · exact breakLocked_id

end BarrierEntry

/-- A `Wait` call that was counted as an arrival. -/
structure BarrierCall (cluster : Cluster) where
  host : cluster.Host
  /-- Barrier identifier. -/
  id : Nat
  /-- Generation at which the call entered. -/
  generation : Nat
  /-- Local participant count passed by the caller. -/
  participants : Nat
deriving DecidableEq

/-- The managers of all hosts, the messages in flight and the history of the calls. -/
structure BarrierWorld (cluster : Cluster) where
  entries : cluster.Host → Nat → BarrierEntry
  network : List (BarrierMessage cluster)
  /-- Every counted call, oldest first. -/
  calls : List (BarrierCall cluster)
  /-- Status of the counted calls that have returned, by position. -/
  results : Nat → Option Status

/-- One atomic action. -/
inductive BarrierOp (cluster : Cluster)
  | wait (host : cluster.Host) (id participants : Nat)
  | awake (call : Nat)
  | deliver (position : Nat)
  | duplicate (position : Nat)
  | inject (message : BarrierMessage cluster)
  | breakBarrier (host : cluster.Host) (id : Nat)
deriving DecidableEq

namespace BarrierWorld

variable {cluster : Cluster}

/-- The world before any call. -/
def initial (cluster : Cluster) : BarrierWorld cluster :=
  ⟨fun _ _ => .fresh, [], [], fun _ => none⟩

/-- Change one entry and put messages in flight. -/
def update (world : BarrierWorld cluster) (host : cluster.Host) (id : Nat)
    (change : BarrierEntry × List (BarrierMessage cluster)) : BarrierWorld cluster :=
  { world with
    entries := Function.update world.entries host
      (Function.update (world.entries host) id change.1)
    network := world.network ++ change.2 }

/-- Perform one action, with the status its caller or the dispatcher sees. -/
def step (world : BarrierWorld cluster) :
    BarrierOp cluster → Option (Status × BarrierWorld cluster)
  | .wait host id participants =>
      let result := (world.entries host id).wait host id participants
      match result.1 with
      | .error status => some (status, world.update host id result.2)
      | .ok generation =>
          let after := world.update host id result.2
          some (.ok, { after with calls := world.calls ++ [⟨host, id, generation, participants⟩] })
  | .awake position =>
      match world.calls[position]?, world.results position with
      | some call, none =>
          ((world.entries call.host call.id).awake call.generation).map fun status =>
            (status, { world with results := Function.update world.results position (some status) })
      | _, _ => none
  | .deliver position =>
      (world.network[position]?).map fun message =>
        let result := (world.entries message.target message.id).handle message
        (result.1,
          { world with network := world.network.eraseIdx position }.update message.target
            message.id result.2)
  | .duplicate position =>
      (world.network[position]?).map fun message =>
        (.ok, { world with network := world.network ++ [message] })
  | .inject message => some (.ok, { world with network := world.network ++ [message] })
  | .breakBarrier host id =>
      some (.ok, world.update host id ((world.entries host id).breakLocked host id))

/-- One action, forgetting the status. -/
def next (world : BarrierWorld cluster) (op : BarrierOp cluster) : Option (BarrierWorld cluster) :=
  (world.step op).map Prod.snd

/-- Every message of the run was sent by a manager. -/
def DoesNotInject (_ : BarrierWorld cluster) : BarrierOp cluster → Prop
  | .inject _ => False
  | _ => True

instance decidableDoesNotInject (world : BarrierWorld cluster) :
    ∀ op : BarrierOp cluster, Decidable (world.DoesNotInject op)
  | .wait .. | .awake .. | .deliver .. | .duplicate .. | .breakBarrier .. => .isTrue trivial
  | .inject _ => .isFalse id

end BarrierWorld
end Cxloom.LoomPar
