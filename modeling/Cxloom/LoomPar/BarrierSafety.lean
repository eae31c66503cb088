import Cxloom.LoomPar.Barrier
import Mathlib.Data.List.Basic

/-!
# No generation is released early

A host is full at a generation once it has had as many counted calls there as its callers
announced.  Fullness only depends on the history of calls and never ends, so an arrival message,
an arrival bit or a release that was justified once stays justified however long it is delayed and
however often it is repeated.
-/

namespace Cxloom.LoomPar
namespace BarrierWorld

variable {cluster : Cluster}

def arrivals (calls : List (BarrierCall cluster)) (host : cluster.Host) (id generation : Nat) :
    Nat :=
  calls.countP fun call => call.host = host ∧ call.id = id ∧ call.generation = generation

def HostFull (calls : List (BarrierCall cluster)) (host : cluster.Host) (id generation : Nat) :
    Prop :=
  ∃ call ∈ calls, call.host = host ∧ call.id = id ∧
    call.participants ≤ arrivals calls host id generation

def Full (calls : List (BarrierCall cluster)) (id generation : Nat) : Prop :=
  ∀ host, HostFull calls host id generation

/-- What an entry says about the history of calls. -/
structure EntryFits (calls : List (BarrierCall cluster)) (host : cluster.Host) (id : Nat)
    (entry : BarrierEntry) : Prop where
  arrived : entry.localArrivals ≤ arrivals calls host id entry.generation
  reported : entry.reported = true → HostFull calls host id entry.generation
  /-- On the coordinator a set bit belongs to a full host. -/
  members : host.val = 0 → ∀ other : cluster.Host,
    entry.hostArrivals.contains other = true → HostFull calls other id entry.generation

/-- What a message says about the history of calls. -/
def MessageFits (calls : List (BarrierCall cluster)) (message : BarrierMessage cluster) : Prop :=
  message.failed = false →
    match message.kind with
    | .arrive => HostFull calls message.source message.id message.generation
    | .release => Full calls message.id message.generation

/-- The invariant of every run whose messages were all sent by managers. -/
structure WorldInv (world : BarrierWorld cluster) : Prop where
  entries : ∀ host id, EntryFits world.calls host id (world.entries host id)
  network : ∀ message ∈ world.network, MessageFits world.calls message
  /-- An entry leaves a generation only when it is full. -/
  waiting : ∀ call ∈ world.calls,
    (world.entries call.host call.id).generation = call.generation ∨
      Full world.calls call.id call.generation
  counts : ∀ call ∈ world.calls, 0 < call.participants ∧
    (world.entries call.host call.id).localParticipants = call.participants
  /-- A call that returned success left a full generation. -/
  results : ∀ position call, world.calls[position]? = some call →
    world.results position = some .ok → Full world.calls call.id call.generation
  returned : ∀ position, (world.results position).isSome → position < world.calls.length

section History

variable {calls : List (BarrierCall cluster)}

theorem arrivals_le_append (call : BarrierCall cluster) (host : cluster.Host)
    (id generation : Nat) :
    arrivals calls host id generation ≤ arrivals (calls ++ [call]) host id generation := by
  simp [arrivals, List.countP_append]

theorem arrivals_append_self (calls : List (BarrierCall cluster)) (call : BarrierCall cluster) :
    arrivals (calls ++ [call]) call.host call.id call.generation =
      arrivals calls call.host call.id call.generation + 1 := by
  simp [arrivals, List.countP_append]

theorem HostFull.append {host : cluster.Host} {id generation : Nat}
    (full : HostFull calls host id generation) (call : BarrierCall cluster) :
    HostFull (calls ++ [call]) host id generation := by
  obtain ⟨announced, member, sameHost, sameId, enough⟩ := full
  exact ⟨announced, List.mem_append_left _ member, sameHost, sameId,
    enough.trans (arrivals_le_append call host id generation)⟩

theorem Full.append {id generation : Nat} (full : Full calls id generation)
    (call : BarrierCall cluster) : Full (calls ++ [call]) id generation :=
  fun host => (full host).append call

theorem MessageFits.append {message : BarrierMessage cluster} (fits : MessageFits calls message)
    (call : BarrierCall cluster) : MessageFits (calls ++ [call]) message := by
  intro genuine
  have earlier := fits genuine
  cases kind : message.kind with
  | arrive | release =>
      simp only [kind] at earlier
      exact earlier.append call

theorem EntryFits.append {host : cluster.Host} {id : Nat} {entry : BarrierEntry}
    (fits : EntryFits calls host id entry) (call : BarrierCall cluster) :
    EntryFits (calls ++ [call]) host id entry where
  arrived := fits.arrived.trans (arrivals_le_append call host id _)
  reported := fun reported => (fits.reported reported).append call
  members := fun coordinator other member => (fits.members coordinator other member).append call

end History

/-! ## Changes of one entry -/

/-- A change of one entry that the history of calls justifies. -/
structure Justified (calls : List (BarrierCall cluster)) (host : cluster.Host) (id : Nat)
    (entry : BarrierEntry) (change : BarrierEntry × List (BarrierMessage cluster)) : Prop where
  fits : EntryFits calls host id change.1
  messages : ∀ message ∈ change.2, MessageFits calls message
  generation : change.1.generation = entry.generation ∨ Full calls id entry.generation
  /-- An announced count is kept. -/
  participants : entry.localParticipants = 0 ∨
    change.1.localParticipants = entry.localParticipants

section Changes

variable {calls : List (BarrierCall cluster)} {host : cluster.Host} {id : Nat}
  {entry : BarrierEntry}

theorem breakLocked_justified (fits : EntryFits calls host id entry) :
    Justified calls host id entry (entry.breakLocked host id) := by
  simp only [BarrierEntry.breakLocked]
  split
  · exact ⟨fits, by simp, .inl rfl, .inr rfl⟩
  · refine ⟨⟨fits.arrived, fits.reported, fits.members⟩, ?_, .inl rfl, .inr rfl⟩
    intro message member genuine
    obtain ⟨target, -, rfl⟩ := List.mem_map.mp member
    simp at genuine

/-- A new generation starts with nothing to justify. -/
theorem advance_fits : EntryFits calls host id entry.advance where
  arrived := Nat.zero_le _
  reported := by simp [BarrierEntry.advance]
  members := by simp [BarrierEntry.advance]

theorem arriveLocked_justified (fits : EntryFits calls host id entry)
    (coordinator : host.val = 0) {source : cluster.Host}
    (full : HostFull calls source id entry.generation) :
    Justified calls host id entry (entry.arriveLocked host id source) := by
  have members : ∀ other : cluster.Host,
      (entry.hostArrivals ||| HostMask.bit source).contains other = true →
        HostFull calls other id entry.generation := by
    intro other member
    rw [HostMask.contains_or_bit _ (Cluster.host_lt_max other)] at member
    rcases Bool.or_eq_true_iff.mp member with earlier | same
    · exact fits.members coordinator other earlier
    · rw [Fin.ext (of_decide_eq_true same)]
      exact full
  simp only [BarrierEntry.arriveLocked]
  split
  · exact ⟨⟨fits.arrived, fits.reported, fun _ => members⟩, by simp, .inl rfl, .inr rfl⟩
  · rename_i complete
    have everyone : Full calls id entry.generation := by
      intro other
      apply members
      exact HostMask.contains_of_eq_all cluster.hostCount_le (not_not.mp complete) other.isLt
    refine ⟨advance_fits, ?_, .inr everyone, .inr rfl⟩
    intro message member _
    obtain ⟨target, -, rfl⟩ := List.mem_map.mp member
    exact everyone

theorem handle_justified {message : BarrierMessage cluster}
    (fits : EntryFits calls message.target message.id entry)
    (genuine : MessageFits calls message) :
    Justified calls message.target message.id entry (entry.handle message).2 := by
  have same : Justified calls message.target message.id entry (entry, []) :=
    ⟨fits, by simp, .inl rfl, .inr rfl⟩
  simp only [BarrierEntry.handle]
  split
  · split
    · exact same
    · exact ⟨⟨fits.arrived, fits.reported, fits.members⟩, by simp, .inl rfl, .inr rfl⟩
  · rename_i sent
    have justified := genuine (by simpa using sent)
    split
    · exact same
    · split
      · exact breakLocked_justified fits
      · rename_i current
        have now : message.generation = entry.generation := not_not.mp current
        split
        · rename_i arrival
          rw [arrival.1, now] at justified
          exact arriveLocked_justified fits arrival.2.1 justified
        · split
          · rename_i release
            rw [release.1, now] at justified
            exact ⟨advance_fits, by simp, .inr justified, .inr rfl⟩
          · exact breakLocked_justified fits

theorem EntryFits.withParticipants (fits : EntryFits calls host id entry) (participants : Nat) :
    EntryFits calls host id { entry with localParticipants := participants } :=
  ⟨fits.arrived, fits.reported, fits.members⟩

/-- A counted call makes its host's new local arrivals justified. -/
theorem EntryFits.counted (fits : EntryFits calls host id entry) (participants : Nat) :
    EntryFits (calls ++ [⟨host, id, entry.generation, participants⟩]) host id
      (entry.counted participants) where
  arrived := by
    have grown := arrivals_append_self calls ⟨host, id, entry.generation, participants⟩
    have arrived := fits.arrived
    simp only [BarrierEntry.counted] at grown ⊢
    omega
  reported := (fits.append _).reported
  members := (fits.append _).members

theorem counted_full (fits : EntryFits calls host id entry) {participants : Nat}
    (complete : entry.localArrivals + 1 = participants) :
    HostFull (calls ++ [⟨host, id, entry.generation, participants⟩]) host id entry.generation := by
  refine ⟨⟨host, id, entry.generation, participants⟩, by simp, rfl, rfl, ?_⟩
  have arrived := (fits.counted participants).arrived
  simp only [BarrierEntry.counted] at arrived ⊢
  omega

theorem EntryFits.withReported (fits : EntryFits calls host id entry)
    (full : HostFull calls host id entry.generation) :
    EntryFits calls host id { entry with reported := true } :=
  ⟨fits.arrived, fun _ => full, fits.members⟩

end Changes

/-! ## Preservation -/

section Preservation

variable {world after : BarrierWorld cluster}

theorem entries_update (world : BarrierWorld cluster) (host other : cluster.Host)
    (id otherId : Nat) (change : BarrierEntry × List (BarrierMessage cluster)) :
    (world.update host id change).entries other otherId =
      if other = host ∧ otherId = id then change.1 else world.entries other otherId := by
  by_cases same : other = host
  · subst same
    simp [update, Function.update_apply]
  · simp [update, same]

/-- A justified change of one entry keeps the invariant. -/
theorem WorldInv.update (inv : WorldInv world) {host : cluster.Host} {id : Nat}
    {change : BarrierEntry × List (BarrierMessage cluster)}
    (justified : Justified world.calls host id (world.entries host id) change) :
    WorldInv (world.update host id change) := by
  constructor
  case entries =>
    intro other otherId
    rw [entries_update]
    split
    · rename_i same
      obtain ⟨rfl, rfl⟩ := same
      exact justified.fits
    · exact inv.entries other otherId
  case network =>
    intro message member
    rcases List.mem_append.mp member with earlier | sent
    · exact inv.network message earlier
    · exact justified.messages message sent
  case waiting =>
    intro call member
    rw [entries_update]
    split
    · rename_i same
      obtain ⟨rfl, rfl⟩ := same
      rcases inv.waiting call member with current | full
      · rw [← current]
        exact justified.generation
      · exact .inr full
    · exact inv.waiting call member
  case counts =>
    intro call member
    have counts := inv.counts call member
    refine ⟨counts.1, ?_⟩
    rw [entries_update]
    split
    · rename_i same
      obtain ⟨rfl, rfl⟩ := same
      rcases justified.participants with unannounced | kept
      · omega
      · rw [kept]
        exact counts.2
    · exact counts.2
  case results => exact inv.results
  case returned => exact inv.returned

/-- The history after a call on a host's current generation. -/
def callsAfter (world : BarrierWorld cluster) (host : cluster.Host) (id participants : Nat) :
    List (BarrierCall cluster) :=
  world.calls ++ [⟨host, id, (world.entries host id).generation, participants⟩]

/-- A counted call enters the history. -/
theorem WorldInv.register (inv : WorldInv world) {host : cluster.Host} {id participants : Nat}
    (positive : 0 < participants)
    (announced : (world.entries host id).localParticipants = 0 ∨
      (world.entries host id).localParticipants = participants) :
    WorldInv { world.update host id ((world.entries host id).counted participants, []) with
      calls := world.callsAfter host id participants } := by
  constructor
  case entries =>
    intro other otherId
    rw [entries_update]
    split
    · rename_i same
      obtain ⟨rfl, rfl⟩ := same
      exact (inv.entries _ _).counted participants
    · exact (inv.entries other otherId).append _
  case network =>
    intro message member
    rw [BarrierWorld.update, List.append_nil] at member
    exact (inv.network message member).append _
  case waiting =>
    intro call member
    rw [entries_update]
    rcases List.mem_append.mp member with earlier | last
    · rcases inv.waiting call earlier with current | full
      · left
        split
        · rename_i same
          obtain ⟨rfl, rfl⟩ := same
          exact current
        · exact current
      · exact .inr (full.append _)
    · obtain rfl := List.mem_singleton.mp last
      left
      simp [BarrierEntry.counted]
  case counts =>
    intro call member
    rw [entries_update]
    rcases List.mem_append.mp member with earlier | last
    · obtain ⟨counted, same⟩ := inv.counts call earlier
      refine ⟨counted, ?_⟩
      split
      · rename_i here
        obtain ⟨rfl, rfl⟩ := here
        simp only [BarrierEntry.counted]
        omega
      · exact same
    · obtain rfl := List.mem_singleton.mp last
      refine ⟨positive, ?_⟩
      simp [BarrierEntry.counted]
  case results =>
    intro position call present succeeded
    have below := inv.returned position (by
      change world.results position = some .ok at succeeded
      simp [succeeded])
    rw [callsAfter, List.getElem?_append_left below] at present
    exact (inv.results position call present succeeded).append _
  case returned =>
    intro position done
    have below := inv.returned position done
    simp only [callsAfter, List.length_append, List.length_singleton]
    omega

/-- A counted call enters the history together with the change that it makes. -/
theorem WorldInv.call (inv : WorldInv world) {host : cluster.Host} {id participants : Nat}
    {change : BarrierEntry × List (BarrierMessage cluster)} (positive : 0 < participants)
    (announced : (world.entries host id).localParticipants = 0 ∨
      (world.entries host id).localParticipants = participants)
    (justified : Justified (world.callsAfter host id participants) host id
      ((world.entries host id).counted participants) change) :
    WorldInv { world.update host id change with
      calls := world.callsAfter host id participants } := by
  have registered := inv.register positive announced
  have present : ({ world.update host id ((world.entries host id).counted participants, []) with
      calls := world.callsAfter host id participants } : BarrierWorld cluster).entries host id =
        (world.entries host id).counted participants := by
    rw [entries_update]
    simp
  rw [← present] at justified
  simpa [BarrierWorld.update] using registered.update justified

/-- The first part of a `Wait` keeps the invariant. -/
theorem wait_inv (inv : WorldInv world) {host : cluster.Host} {id participants : Nat}
    {status : Status} (taken : world.step (.wait host id participants) = some (status, after)) :
    WorldInv after := by
  have outcome := (world.entries host id).wait_outcome host id participants
  have fits := inv.entries host id
  simp only [step] at taken
  generalize (world.entries host id).wait host id participants = result at outcome taken
  cases outcome with
  | refused refusal =>
      cases taken
      exact inv.update ⟨fits, by simp, .inl rfl, .inr rfl⟩
  | mismatch refusal =>
      cases taken
      exact inv.update (breakLocked_justified fits)
  | overfull refusal unbroken positive announced full =>
      cases taken
      have broken := breakLocked_justified (fits.withParticipants participants)
      refine inv.update ⟨broken.fits, broken.messages, broken.generation, ?_⟩
      rcases announced with first | same
      · exact .inl first
      · rcases broken.participants with zero | kept
        · exact absurd zero positive.ne'
        · exact .inr (kept.trans same.symm)
  | arrived unbroken positive announced unreported missing =>
      cases taken
      exact inv.call positive announced ⟨fits.counted participants, by simp, .inl rfl, .inr rfl⟩
  | coordinated unbroken positive announced unreported complete coordinator =>
      cases taken
      have full := counted_full fits complete
      have arrives := arriveLocked_justified
        ((fits.counted participants).withReported full) coordinator full
      exact inv.call positive announced
        ⟨arrives.fits, arrives.messages, arrives.generation, arrives.participants⟩
  | reported unbroken positive announced unreported complete member =>
      cases taken
      have full := counted_full fits complete
      refine inv.call positive announced
        ⟨(fits.counted participants).withReported full, ?_, .inl rfl, .inr rfl⟩
      intro message sent _
      obtain rfl := List.mem_singleton.mp sent
      exact full

/-- The return of a `Wait` keeps the invariant. -/
theorem awake_inv (inv : WorldInv world) {position : Nat} {status : Status}
    (taken : world.step (.awake position) = some (status, after)) : WorldInv after := by
  simp only [step] at taken
  split at taken
  · rename_i call present unreturned
    obtain ⟨result, woken, same⟩ := Option.map_eq_some_iff.mp taken
    cases same
    have below := (List.getElem?_eq_some_iff.mp present).1
    refine ⟨inv.entries, inv.network, inv.waiting, inv.counts, ?_, ?_⟩
    · intro other otherCall otherPresent succeeded
      by_cases same : other = position
      · subst same
        rw [present, Option.some_inj] at otherPresent
        subst otherPresent
        simp only [Function.update_self, Option.some_inj] at succeeded
        subst succeeded
        simp only [BarrierEntry.awake] at woken
        split at woken
        · simp [Status.failedPrecondition, Status.ok] at woken
        · split at woken
          · rename_i moved
            exact (inv.waiting call (List.mem_of_getElem? present)).resolve_left moved
          · simp at woken
      · simp only [Function.update_of_ne same] at succeeded
        exact inv.results other otherCall otherPresent succeeded
    · intro other done
      by_cases same : other = position
      · subst same
        exact below
      · simp only [Function.update_of_ne same] at done
        exact inv.returned other done
  · simp at taken

theorem WorldInv.withNetwork (inv : WorldInv world) {network : List (BarrierMessage cluster)}
    (genuine : ∀ message ∈ network, MessageFits world.calls message) :
    WorldInv { world with network := network } :=
  ⟨inv.entries, genuine, inv.waiting, inv.counts, inv.results, inv.returned⟩

/-- Every action that injects no message keeps the invariant. -/
theorem step_inv (inv : WorldInv world) {op : BarrierOp cluster} {status : Status}
    (genuine : world.DoesNotInject op) (taken : world.step op = some (status, after)) :
    WorldInv after := by
  cases op with
  | wait host id participants => exact wait_inv inv taken
  | awake position => exact awake_inv inv taken
  | deliver position =>
      obtain ⟨message, present, same⟩ := Option.map_eq_some_iff.mp taken
      cases same
      have sent := inv.network message (List.mem_of_getElem? present)
      have others : ∀ other ∈ world.network.eraseIdx position, MessageFits world.calls other :=
        fun other member => inv.network other (List.mem_of_mem_eraseIdx member)
      exact (inv.withNetwork others).update (handle_justified (inv.entries _ _) sent)
  | duplicate position =>
      obtain ⟨message, present, same⟩ := Option.map_eq_some_iff.mp taken
      cases same
      apply inv.withNetwork
      intro other member
      rcases List.mem_append.mp member with earlier | copy
      · exact inv.network other earlier
      · rw [List.mem_singleton.mp copy]
        exact inv.network message (List.mem_of_getElem? present)
  | inject message => exact genuine.elim
  | breakBarrier host id =>
      cases taken
      exact inv.update (breakLocked_justified (inv.entries host id))

/-- Every run whose messages were all sent by managers keeps the invariant. -/
theorem reached_inv (execution : Run.ReachesBy next DoesNotInject (initial cluster) world) :
    WorldInv world := by
  apply execution.preserves
  · constructor <;> simp [initial, BarrierEntry.fresh, MessageFits]
    intro host id
    constructor <;> simp
  · intro before op after inv genuine performed
    obtain ⟨⟨status, reached⟩, taken, same⟩ := Option.map_eq_some_iff.mp performed
    obtain rfl : reached = after := same
    exact step_inv inv genuine taken

end Preservation

/-- When a `Wait` that entered at a generation has returned success, every host has had as many
calls at that generation as its callers announce, and they all announce the same count. -/
theorem barrier_release_full {world : BarrierWorld cluster}
    (execution : Run.ReachesBy next DoesNotInject (initial cluster) world)
    {position : Nat} {call : BarrierCall cluster} (entered : world.calls[position]? = some call)
    (succeeded : world.results position = some .ok) (host : cluster.Host) :
    0 < (world.entries host call.id).localParticipants ∧
      (∀ other ∈ world.calls, other.host = host → other.id = call.id →
        other.participants = (world.entries host call.id).localParticipants) ∧
      (world.entries host call.id).localParticipants ≤
        arrivals world.calls host call.id call.generation := by
  have inv := reached_inv execution
  have announced : ∀ other ∈ world.calls, other.host = host → other.id = call.id →
      other.participants = (world.entries host call.id).localParticipants := by
    rintro other member rfl sameId
    rw [← sameId]
    exact (inv.counts other member).2.symm
  obtain ⟨caller, member, sameHost, sameId, enough⟩ :=
    inv.results position call entered succeeded host
  have count := announced caller member sameHost sameId
  have positive := (inv.counts caller member).1
  exact ⟨by omega, announced, by omega⟩

def twoHosts : Cluster := ⟨2, 8, Nat.two_pos, two_le_kMaxHosts⟩

/-- The member host arrives first and its message is delivered twice before both participants of
the coordinator arrive; then everyone returns. -/
def earlyArrivalOps : List (BarrierOp twoHosts) :=
  [.wait ⟨1, Nat.one_lt_two⟩ 7 1, .duplicate 0, .deliver 0, .deliver 0, .wait ⟨0, Nat.two_pos⟩ 7 2,
    .wait ⟨0, Nat.two_pos⟩ 7 2, .awake 2, .deliver 0, .awake 0, .awake 1]

theorem barrier_release_full_early :
    ∃ world, Run.runLabels next (initial twoHosts) earlyArrivalOps = some world ∧
      world.calls[0]? = some ⟨⟨1, by decide⟩, 7, 0, 1⟩ ∧ world.results 0 = some .ok ∧
      (world.entries ⟨0, by decide⟩ 7).localParticipants = 2 ∧
      2 ≤ arrivals world.calls ⟨0, by decide⟩ 7 0 := by
  have outcome : (Run.runLabels next (initial twoHosts) earlyArrivalOps).any (fun world =>
      world.calls[0]? = some ⟨⟨1, by decide⟩, 7, 0, 1⟩ ∧ world.results 0 = some .ok ∧
        (world.entries ⟨0, by decide⟩ 7).localParticipants = 2) = true := by
    decide +kernel
  have genuine : Run.AdmitsLabels next DoesNotInject (initial twoHosts) earlyArrivalOps := by
    decide +kernel
  obtain ⟨world, execution, facts⟩ := (Option.any_eq_true _ _).mp outcome
  obtain ⟨entered, succeeded, announced⟩ := of_decide_eq_true facts
  have full := barrier_release_full (Run.reachesBy_of_runLabels execution genuine) entered
    succeeded ⟨0, by decide⟩
  rw [announced] at full
  exact ⟨world, execution, entered, succeeded, announced, full.2.2⟩

end BarrierWorld
end Cxloom.LoomPar
