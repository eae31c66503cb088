import Cxloom.LoomPar.BarrierSafety
import Mathlib.Data.List.Perm.Basic

/-!
# Correctly used barriers

On every host a fixed number of participants use one identifier; each passes that number and calls
again only after its last call has returned.  The coordinator and every other host then move in
lockstep: between them lies either nothing, one arrival that is awaited or one release that is
awaited.  Whatever happens on other identifiers has no part in this.
-/

namespace Cxloom.LoomPar
namespace BarrierWorld

variable {cluster : Cluster}

def coordinator (cluster : Cluster) : cluster.Host := ⟨0, cluster.hostCount_pos⟩

/-- Number of calls that satisfy a test and have not returned. -/
def pending (world : BarrierWorld cluster) (test : BarrierCall cluster → Bool) : Nat :=
  (List.range world.calls.length).countP fun position =>
    world.results position = none ∧ (world.calls[position]?).any test

def callOf (host : cluster.Host) (id : Nat) (call : BarrierCall cluster) : Bool :=
  call.host = host ∧ call.id = id

/-- Calls of a host on an identifier that entered at a generation. -/
def callAt (host : cluster.Host) (id generation : Nat) (call : BarrierCall cluster) : Bool :=
  call.host = host ∧ call.id = id ∧ call.generation = generation

/-- The participants of each host use an identifier correctly: a call passes the number of
participants of its host and is made by one of them that is not in a call.  Nobody breaks the
barrier, and its messages are delivered once. -/
def UsesCorrectly (participants : cluster.Host → Nat) (id : Nat) (world : BarrierWorld cluster) :
    BarrierOp cluster → Prop
  | .wait host other count =>
      other = id → count = participants host ∧
        world.pending (callOf host id) < participants host
  | .awake _ | .deliver _ => True
  | .duplicate position => ∀ message ∈ world.network[position]?, message.id ≠ id
  | .inject message => message.id ≠ id
  | .breakBarrier _ other => other ≠ id

instance decidableUsesCorrectly (participants : cluster.Host → Nat) (id : Nat)
    (world : BarrierWorld cluster) :
    ∀ op : BarrierOp cluster, Decidable (UsesCorrectly participants id world op)
  | .wait _ other _ => inferInstanceAs (Decidable (other = id → _ ∧ _))
  | .awake _ | .deliver _ => .isTrue trivial
  | .duplicate position => inferInstanceAs (Decidable (∀ _ ∈ world.network[position]?, _))
  | .inject message => inferInstanceAs (Decidable (message.id ≠ id))
  | .breakBarrier _ other => inferInstanceAs (Decidable (other ≠ id))

/-! ## Pending calls -/

section Pending

variable {world : BarrierWorld cluster} {test first second : BarrierCall cluster → Bool}

theorem pending_congr {other : BarrierWorld cluster} (calls : other.calls = world.calls)
    (results : other.results = world.results) : other.pending test = world.pending test := by
  simp only [pending, calls, results]

theorem pending_append {other : BarrierWorld cluster} {call : BarrierCall cluster}
    (calls : other.calls = world.calls ++ [call]) (results : other.results = world.results)
    (fresh : world.results world.calls.length = none) :
    other.pending test = world.pending test + if test call then 1 else 0 := by
  have earlier : ∀ position ∈ List.range world.calls.length,
      (decide (world.results position = none ∧
        ((world.calls ++ [call])[position]?).any test = true) =
      decide (world.results position = none ∧ (world.calls[position]?).any test = true)) := by
    intro position member
    rw [List.getElem?_append_left (List.mem_range.mp member)]
  simp only [pending, calls, results, List.length_append, List.length_singleton, List.range_succ,
    List.countP_append, List.countP_singleton, List.getElem?_concat_length, Option.any_some, fresh,
    true_and, decide_eq_true_eq]
  rw [List.countP_congr fun position member => by rw [earlier position member]]

theorem pending_return {other : BarrierWorld cluster} {call : BarrierCall cluster} {position : Nat}
    {status : Status} (calls : other.calls = world.calls)
    (results : other.results = Function.update world.results position (some status))
    (present : world.calls[position]? = some call) (waits : world.results position = none) :
    world.pending test = other.pending test + if test call then 1 else 0 := by
  have below := (List.getElem?_eq_some_iff.mp present).1
  have member : position ∈ List.range world.calls.length := List.mem_range.mpr below
  have split := List.perm_cons_erase member
  have others : ∀ later ∈ (List.range world.calls.length).erase position, later ≠ position :=
    fun later kept => (List.nodup_range.mem_erase_iff.mp kept).1
  simp only [pending, calls, results]
  rw [split.countP_eq, split.countP_eq, List.countP_cons, List.countP_cons]
  simp only [Function.update_self, reduceCtorEq, false_and, decide_false, waits, present,
    Option.any_some, true_and, decide_eq_true_eq, Bool.false_eq_true, if_false, Nat.add_zero]
  congr 1
  apply List.countP_congr
  intro later kept
  rw [Function.update_of_ne (others later kept)]

theorem pending_le (implied : ∀ call, first call = true → test call = true) :
    world.pending first ≤ world.pending test := by
  apply List.countP_mono_left
  intro position _ counted
  simp only [decide_eq_true_eq] at counted ⊢
  refine ⟨counted.1, ?_⟩
  obtain ⟨call, present, passes⟩ := (Option.any_eq_true _ _).mp counted.2
  exact (Option.any_eq_true _ _).mpr ⟨call, present, implied call passes⟩

/-- Calls of two kinds that exclude each other. -/
theorem pending_add_le (left : ∀ call, first call = true → test call = true)
    (right : ∀ call, second call = true → test call = true)
    (apart : ∀ call, first call = true → second call = false) :
    world.pending first + world.pending second ≤ world.pending test := by
  simp only [pending]
  induction List.range world.calls.length with
  | nil => simp
  | cons position rest induction =>
      simp only [List.countP_cons, decide_eq_true_eq]
      cases present : world.calls[position]? with
      | none => simpa using induction
      | some call =>
          have left := left call
          have right := right call
          have apart := apart call
          simp only [Option.any_some]
          by_cases waits : world.results position = none
          · by_cases one : first call = true
            · simp only [waits, one, left one, apart one, true_and, if_true, Bool.false_eq_true,
                if_false]
              omega
            · by_cases two : second call = true
              · simp only [waits, one, two, right two, true_and, if_true, Bool.false_eq_true,
                  if_false]
                omega
              · simp only [waits, one, two, true_and, Bool.false_eq_true, if_false]
                omega
          · simp only [waits, false_and, if_false]
            exact induction

end Pending

/-! ## The invariant -/

def traffic (network : List (BarrierMessage cluster)) (id : Nat) (source target : cluster.Host) :
    List (BarrierMessage cluster) :=
  network.filter fun message => message.id = id ∧ message.source = source ∧ message.target = target

/-- The arrival that a member sends. -/
def arrival (host : cluster.Host) (id generation : Nat) : BarrierMessage cluster :=
  ⟨.arrive, host, coordinator cluster, id, generation, false⟩

def release (host : cluster.Host) (id generation : Nat) : BarrierMessage cluster :=
  ⟨.release, coordinator cluster, host, id, generation, false⟩

/-- What lies between the coordinator and another host. -/
inductive Link (id : Nat) (leader : BarrierEntry) (host : cluster.Host) (entry : BarrierEntry)
    (network : List (BarrierMessage cluster)) : Prop
  | idle (same : leader.generation = entry.generation) (reported : entry.reported = false)
      (bit : leader.hostArrivals.contains host = false)
      (up : (traffic network id host (coordinator cluster)).Perm [])
      (down : (traffic network id (coordinator cluster) host).Perm [])
  | arriving (same : leader.generation = entry.generation) (reported : entry.reported = true)
      (bit : leader.hostArrivals.contains host = false)
      (up : (traffic network id host (coordinator cluster)).Perm
        [arrival host id entry.generation])
      (down : (traffic network id (coordinator cluster) host).Perm [])
  | arrived (same : leader.generation = entry.generation) (reported : entry.reported = true)
      (bit : leader.hostArrivals.contains host = true)
      (up : (traffic network id host (coordinator cluster)).Perm [])
      (down : (traffic network id (coordinator cluster) host).Perm [])
  | releasing (ahead : leader.generation = (entry.generation + 1) % generationModulus)
      (reported : entry.reported = true) (bit : leader.hostArrivals.contains host = false)
      (up : (traffic network id host (coordinator cluster)).Perm [])
      (down : (traffic network id (coordinator cluster) host).Perm
        [release host id entry.generation])

/-- What the participants of one host have done. -/
structure HostInv (participants : cluster.Host → Nat) (id : Nat) (world : BarrierWorld cluster)
    (host : cluster.Host) : Prop where
  unbroken : (world.entries host id).broken = false
  callers : world.pending (callOf host id) ≤ participants host
  counted : (world.entries host id).localArrivals =
    world.pending (callAt host id (world.entries host id).generation)
  announced : (world.entries host id).localParticipants = 0 ∨
    (world.entries host id).localParticipants = participants host
  reported : (world.entries host id).reported = true →
    (world.entries host id).localArrivals = participants host

/-- The invariant of a correctly used identifier. -/
structure UseInv (participants : cluster.Host → Nat) (id : Nat) (world : BarrierWorld cluster) :
    Prop where
  returned : ∀ position, world.calls.length ≤ position → world.results position = none
  hosts : ∀ host, HostInv participants id world host
  leader : (world.entries (coordinator cluster) id).hostArrivals.contains 0 =
    (world.entries (coordinator cluster) id).reported
  links : ∀ host, host ≠ coordinator cluster →
    Link id (world.entries (coordinator cluster) id) host (world.entries host id) world.network
  /-- Messages go to or come from the coordinator. -/
  routes : ∀ message ∈ world.network, message.id = id →
    (message.source = coordinator cluster ∧ message.target ≠ coordinator cluster) ∨
      (message.source ≠ coordinator cluster ∧ message.target = coordinator cluster)

/-! ## Traffic -/

section Traffic

variable {network sent : List (BarrierMessage cluster)} {id : Nat} {source target : cluster.Host}
  {message : BarrierMessage cluster}

theorem traffic_append : traffic (network ++ sent) id source target =
    traffic network id source target ++ traffic sent id source target :=
  List.filter_append ..

/-- Messages that are not on a route do not count. -/
theorem traffic_eq_nil (elsewhere : ∀ message ∈ sent,
    message.id = id → message.source = source → message.target ≠ target) :
    traffic sent id source target = [] := by
  simp only [traffic, List.filter_eq_nil_iff, decide_eq_true_eq, not_and]
  exact elsewhere

theorem traffic_erase {position : Nat} (present : network[position]? = some message) :
    (traffic network id source target).Perm
      (traffic (message :: network.eraseIdx position) id source target) := by
  obtain ⟨below, rfl⟩ := List.getElem?_eq_some_iff.mp present
  exact (List.getElem_cons_eraseIdx_perm below).symm.filter _

theorem traffic_erase_other {position : Nat} (present : network[position]? = some message)
    (elsewhere : message.id = id → message.source = source → message.target ≠ target) :
    (traffic network id source target).Perm
      (traffic (network.eraseIdx position) id source target) := by
  refine (traffic_erase present).trans ?_
  simp only [traffic]
  rw [List.filter_cons_of_neg]
  simp only [decide_eq_true_eq, not_and]
  exact elsewhere

theorem traffic_erase_self {position : Nat} (present : network[position]? = some message) :
    (traffic network message.id message.source message.target).Perm
      (message :: traffic
        (network.eraseIdx position) message.id message.source message.target) := by
  refine (traffic_erase present).trans ?_
  simp only [traffic]
  rw [List.filter_cons_of_pos (by simp)]

end Traffic

/-- A link only depends on the fields it mentions and on the messages of its two routes. -/
theorem Link.congr {id : Nat} {leader leader' entry entry' : BarrierEntry} {host : cluster.Host}
    {network network' : List (BarrierMessage cluster)} (link : Link id leader host entry network)
    (leaderGeneration : leader'.generation = leader.generation)
    (bit : leader'.hostArrivals.contains host = leader.hostArrivals.contains host)
    (generation : entry'.generation = entry.generation)
    (reported : entry'.reported = entry.reported)
    (up : (traffic network' id host (coordinator cluster)).Perm
      (traffic network id host (coordinator cluster)))
    (down : (traffic network' id (coordinator cluster) host).Perm
      (traffic network id (coordinator cluster) host)) :
    Link id leader' host entry' network' := by
  cases link with
  | idle same unreported clear upward downward =>
      exact .idle (by rw [leaderGeneration, generation, same]) (reported.trans unreported)
        (bit.trans clear) (up.trans upward) (down.trans downward)
  | arriving same done clear upward downward =>
      refine .arriving (by rw [leaderGeneration, generation, same]) (reported.trans done)
        (bit.trans clear) ?_ (down.trans downward)
      rw [generation]
      exact up.trans upward
  | arrived same done set upward downward =>
      exact .arrived (by rw [leaderGeneration, generation, same]) (reported.trans done)
        (bit.trans set) (up.trans upward) (down.trans downward)
  | releasing ahead done clear upward downward =>
      refine .releasing (by rw [leaderGeneration, generation, ahead]) (reported.trans done)
        (bit.trans clear) (up.trans upward) ?_
      rw [generation]
      exact down.trans downward

/-! ## Changes of one entry -/

section Changes

variable {participants : cluster.Host → Nat} {id : Nat} {world after : BarrierWorld cluster}
  {host : cluster.Host}

theorem generation_succ_ne (generation : Nat) :
    (generation + 1) % generationModulus ≠ generation := by
  simp only [generationModulus]
  omega

theorem callAt_callOf {generation : Nat} (call : BarrierCall cluster)
    (passes : callAt host id generation call = true) : callOf host id call = true := by
  simp only [callAt, callOf, decide_eq_true_eq] at passes ⊢
  exact ⟨passes.1, passes.2.1⟩

theorem HostInv.congr (inv : HostInv participants id world host) (mask : HostMask)
    (entry : after.entries host id = { world.entries host id with hostArrivals := mask })
    (callers : after.pending (callOf host id) ≤ world.pending (callOf host id))
    (current : after.pending (callAt host id (world.entries host id).generation) =
      world.pending (callAt host id (world.entries host id).generation)) :
    HostInv participants id after host where
  unbroken := by rw [entry]; exact inv.unbroken
  callers := callers.trans inv.callers
  counted := by rw [entry, current]; exact inv.counted
  announced := by rw [entry]; exact inv.announced
  reported := by rw [entry]; exact inv.reported

/-- The calls and results decide what is pending. -/
theorem HostInv.of_entry (inv : HostInv participants id world host)
    (calls : after.calls = world.calls) (results : after.results = world.results) (mask : HostMask)
    (entry : after.entries host id = { world.entries host id with hostArrivals := mask }) :
    HostInv participants id after host :=
  inv.congr mask entry (pending_congr calls results).le (pending_congr calls results)

/-- When a host has reported, nobody waits for another generation. -/
theorem HostInv.pending_next (inv : HostInv participants id world host)
    (reported : (world.entries host id).reported = true) {generation : Nat}
    (other : generation ≠ (world.entries host id).generation) :
    world.pending (callAt host id generation) = 0 := by
  have apart : ∀ call, callAt host id (world.entries host id).generation call = true →
      callAt host id generation call = false := by
    intro call passes
    simp only [callAt, decide_eq_true_eq, decide_eq_false_iff_not] at passes ⊢
    rintro ⟨-, -, same⟩
    exact other (same.symm.trans passes.2.2)
  have bound : world.pending (callAt host id (world.entries host id).generation) +
      world.pending (callAt host id generation) ≤ world.pending (callOf host id) :=
    pending_add_le (fun call => callAt_callOf call) (fun call => callAt_callOf call) apart
  have callers := inv.callers
  have counted := inv.counted
  have full := inv.reported reported
  omega

/-- A reported host may start the next generation. -/
theorem HostInv.advance (inv : HostInv participants id world host)
    (reported : (world.entries host id).reported = true) (calls : after.calls = world.calls)
    (results : after.results = world.results)
    (unbroken : (after.entries host id).broken = false)
    (announced : (after.entries host id).localParticipants =
      (world.entries host id).localParticipants)
    (generation : (after.entries host id).generation =
      ((world.entries host id).generation + 1) % generationModulus)
    (empty : (after.entries host id).localArrivals = 0)
    (unreported : (after.entries host id).reported = false) :
    HostInv participants id after host where
  unbroken := unbroken
  callers := by
    rw [pending_congr calls results]
    exact inv.callers
  counted := by
    rw [empty, generation, pending_congr calls results]
    exact (inv.pending_next reported (generation_succ_ne _)).symm
  announced := by
    rw [announced]
    exact inv.announced
  reported := by
    rw [unreported]
    exact nofun

/-- A call that passes the number of participants is counted. -/
theorem HostInv.count (inv : HostInv participants id world host)
    (returned : world.results world.calls.length = none)
    (free : world.pending (callOf host id) < participants host)
    (calls : after.calls = world.callsAfter host id (participants host))
    (results : after.results = world.results)
    (unbroken : (after.entries host id).broken = false)
    (generation : (after.entries host id).generation = (world.entries host id).generation)
    (announced : (after.entries host id).localParticipants = participants host)
    (counted : (after.entries host id).localArrivals = (world.entries host id).localArrivals + 1)
    (reported : (after.entries host id).reported = true →
      (world.entries host id).localArrivals + 1 = participants host) :
    HostInv participants id after host where
  unbroken := unbroken
  callers := by
    rw [pending_append calls results returned]
    simp only [callOf, decide_true, and_self, if_true]
    omega
  counted := by
    rw [counted, generation, pending_append calls results returned, inv.counted]
    simp [callAt]
  announced := .inr announced
  reported := by
    rw [counted]
    exact reported

/-- A counted call does not concern other hosts and other identifiers. -/
theorem HostInv.uncount (inv : HostInv participants id world host)
    (returned : world.results world.calls.length = none) {call : BarrierCall cluster}
    (calls : after.calls = world.calls ++ [call]) (results : after.results = world.results)
    (entry : after.entries host id = world.entries host id)
    (elsewhere : call.host = host → call.id ≠ id) : HostInv participants id after host := by
  have refused : callOf host id call = false := by
    simpa [callOf] using elsewhere
  have refusedAt : ∀ generation, callAt host id generation call = false := by
    intro generation
    simp only [callAt, decide_eq_false_iff_not]
    rintro ⟨same, sameId, -⟩
    exact elsewhere same sameId
  refine inv.congr (world.entries host id).hostArrivals entry ?_ ?_
  · rw [pending_append calls results returned, refused]
    simp
  · rw [pending_append calls results returned, refusedAt]
    simp

end Changes

/-! ## Arrivals at the coordinator -/

/-- A state in which the arrival of one host is about to be recorded. -/
structure ArriveInv (participants : cluster.Host → Nat) (id : Nat) (world : BarrierWorld cluster)
    (source : cluster.Host) : Prop where
  returned : ∀ position, world.calls.length ≤ position → world.results position = none
  hosts : ∀ host, HostInv participants id world host
  leader : (source ≠ coordinator cluster ∧
      (world.entries (coordinator cluster) id).hostArrivals.contains 0 =
        (world.entries (coordinator cluster) id).reported) ∨
    (source = coordinator cluster ∧ (world.entries (coordinator cluster) id).reported = true)
  links : ∀ host, host ≠ coordinator cluster → host ≠ source →
    Link id (world.entries (coordinator cluster) id) host (world.entries host id) world.network
  arriving : source ≠ coordinator cluster →
    (world.entries (coordinator cluster) id).generation = (world.entries source id).generation ∧
      (world.entries source id).reported = true ∧
      (traffic world.network id source (coordinator cluster)).Perm [] ∧
      (traffic world.network id (coordinator cluster) source).Perm []
  /-- Messages go to or come from the coordinator. -/
  routes : ∀ message ∈ world.network, message.id = id →
    (message.source = coordinator cluster ∧ message.target ≠ coordinator cluster) ∨
      (message.source ≠ coordinator cluster ∧ message.target = coordinator cluster)

def releases (cluster : Cluster) (id generation : Nat) : List (BarrierMessage cluster) :=
  ((List.finRange cluster.hostCount).filter fun host => 0 < host.val).map fun host =>
    ⟨.release, coordinator cluster, host, id, generation, false⟩

theorem mem_releases {id generation : Nat} {message : BarrierMessage cluster}
    (member : message ∈ releases cluster id generation) :
    ∃ host, host ≠ coordinator cluster ∧ message = release host id generation := by
  obtain ⟨host, kept, rfl⟩ := List.mem_map.mp member
  refine ⟨host, ?_, rfl⟩
  rintro rfl
  simp [coordinator] at kept

theorem traffic_releases {id generation : Nat} {host : cluster.Host}
    (member : host ≠ coordinator cluster) :
    traffic (releases cluster id generation) id (coordinator cluster) host =
      [release host id generation] := by
  have positive : 0 < host.val := by
    refine Nat.pos_of_ne_zero fun zero => member (Fin.ext zero)
  have single : (List.finRange cluster.hostCount).filter (fun other => other = host) = [host] := by
    rw [List.filter_eq, List.count_eq_one_of_mem (List.nodup_finRange _) (List.mem_finRange _)]
    rfl
  simp only [traffic, releases, List.filter_map, List.filter_filter]
  have only : (List.finRange cluster.hostCount).filter (fun other =>
      ((fun message : BarrierMessage cluster => decide (message.id = id ∧
        message.source = coordinator cluster ∧ message.target = host)) ∘
          fun other => (⟨.release, coordinator cluster, other, id, generation, false⟩ :
            BarrierMessage cluster)) other && decide (0 < other.val)) = [host] := by
    rw [← single]
    apply List.filter_congr
    intro other _
    simp only [Function.comp_apply, true_and, Bool.and_eq_decide]
    by_cases same : other = host
    · subst same
      simp [positive]
    · simp [same]
  rw [only]
  rfl

namespace ArriveInv

variable {participants : cluster.Host → Nat} {id : Nat} {world : BarrierWorld cluster}
  {source : cluster.Host}

/-- The mask once the arrival is recorded. -/
theorem contains_arrivals (world : BarrierWorld cluster) (id : Nat) (source host : cluster.Host) :
    ((world.entries (coordinator cluster) id).hostArrivals ||| HostMask.bit source).contains host =
      ((world.entries (coordinator cluster) id).hostArrivals.contains host ||
        decide (host = source)) := by
  rw [HostMask.contains_or_bit _ (Cluster.host_lt_max host)]
  congr 1
  simp [Fin.ext_iff]

theorem recorded (inv : ArriveInv participants id world source) :
    UseInv participants id (world.update (coordinator cluster) id
      ({ world.entries (coordinator cluster) id with
        hostArrivals := (world.entries (coordinator cluster) id).hostArrivals |||
          HostMask.bit source }, [])) := by
  have bits := contains_arrivals world id source
  have network : (world.update (coordinator cluster) id
      ({ world.entries (coordinator cluster) id with
        hostArrivals := (world.entries (coordinator cluster) id).hostArrivals |||
          HostMask.bit source }, [])).network = world.network := List.append_nil _
  constructor
  case returned => exact inv.returned
  case hosts =>
    intro host
    by_cases here : host = coordinator cluster
    · subst here
      refine (inv.hosts (coordinator cluster)).of_entry rfl rfl
        ((world.entries (coordinator cluster) id).hostArrivals ||| HostMask.bit source) ?_
      rw [entries_update, if_pos ⟨rfl, rfl⟩]
    · refine (inv.hosts host).of_entry rfl rfl (world.entries host id).hostArrivals ?_
      rw [entries_update, if_neg (fun same => here same.1)]
  case leader =>
    have own := bits (coordinator cluster)
    rw [entries_update, if_pos ⟨rfl, rfl⟩]
    refine own.trans ?_
    rcases inv.leader with ⟨other, same⟩ | ⟨rfl, reported⟩
    · rw [decide_eq_false (Ne.symm other), Bool.or_false]
      exact same
    · rw [decide_eq_true rfl, Bool.or_true]
      exact reported.symm
  case links =>
    intro host member
    rw [entries_update, if_pos ⟨rfl, rfl⟩, entries_update, if_neg (fun here => member here.1),
      network]
    by_cases same : host = source
    · subst same
      obtain ⟨generation, reported, up, down⟩ := inv.arriving member
      refine .arrived generation reported ?_ up down
      rw [bits]
      simp
    · refine (inv.links host member same).congr rfl ?_ rfl rfl (List.Perm.refl _)
        (List.Perm.refl _)
      rw [bits]
      simp [same]
  case routes =>
    rw [network]
    exact inv.routes

/-- When every bit is set, every other host has reported and nothing is under way. -/
theorem complete (inv : ArriveInv participants id world source)
    (full : ∀ host : cluster.Host,
      (world.entries (coordinator cluster) id).hostArrivals.contains host = true ∨ host = source)
    {host : cluster.Host} (member : host ≠ coordinator cluster) :
    (world.entries (coordinator cluster) id).generation = (world.entries host id).generation ∧
      (world.entries host id).reported = true ∧
      (traffic world.network id host (coordinator cluster)).Perm [] ∧
      (traffic world.network id (coordinator cluster) host).Perm [] := by
  by_cases same : host = source
  · subst same
    exact inv.arriving member
  · have set := (full host).resolve_right same
    cases inv.links host member same with
    | idle _ _ clear _ _ | arriving _ _ clear _ _ => rw [set] at clear; cases clear
    | arrived generation reported _ up down => exact ⟨generation, reported, up, down⟩
    | releasing _ _ clear _ _ => rw [set] at clear; cases clear

/-- Recording the last arrival. -/
theorem released (inv : ArriveInv participants id world source)
    (full : ∀ host : cluster.Host,
      (world.entries (coordinator cluster) id).hostArrivals.contains host = true ∨ host = source)
    (arrivals : HostMask) :
    UseInv participants id (world.update (coordinator cluster) id
      (({ world.entries (coordinator cluster) id with
          hostArrivals := arrivals } : BarrierEntry).advance,
        releases cluster id (world.entries (coordinator cluster) id).generation)) := by
  have reported : (world.entries (coordinator cluster) id).reported = true := by
    rcases inv.leader with ⟨other, same⟩ | ⟨-, reported⟩
    · rw [← same]
      exact (full (coordinator cluster)).resolve_right (fun same => other same.symm)
    · exact reported
  constructor
  case returned => exact inv.returned
  case hosts =>
    intro host
    by_cases here : host = coordinator cluster
    · subst here
      have unbroken := (inv.hosts (coordinator cluster)).unbroken
      refine (inv.hosts (coordinator cluster)).advance reported rfl rfl ?_ ?_ ?_ ?_ ?_ <;>
        rw [entries_update, if_pos ⟨rfl, rfl⟩]
      · exact unbroken
      · rfl
      · rfl
      · rfl
      · rfl
    · refine (inv.hosts host).of_entry rfl rfl (world.entries host id).hostArrivals ?_
      rw [entries_update, if_neg (fun same => here same.1)]
  case leader =>
    rw [entries_update, if_pos ⟨rfl, rfl⟩]
    simp [BarrierEntry.advance]
  case links =>
    intro host member
    obtain ⟨generation, done, up, down⟩ := inv.complete full member
    rw [entries_update, if_pos ⟨rfl, rfl⟩, entries_update, if_neg (fun here => member here.1)]
    have upward : traffic (releases cluster id (world.entries (coordinator cluster) id).generation)
        id host (coordinator cluster) = [] := by
      apply traffic_eq_nil
      intro message sent _ fromHost
      obtain ⟨other, -, rfl⟩ := mem_releases sent
      exact absurd fromHost.symm member
    refine .releasing ?_ done ?_ ?_ ?_
    · simp only [BarrierEntry.advance]
      rw [generation]
    · simp [BarrierEntry.advance]
    · simp only [BarrierWorld.update]
      rw [traffic_append, upward, List.append_nil]
      exact up
    · simp only [BarrierWorld.update]
      rw [traffic_append, traffic_releases member, down.eq_nil, generation, List.nil_append]
  case routes =>
    intro message sent sameId
    rcases List.mem_append.mp sent with earlier | new
    · exact inv.routes message earlier sameId
    · obtain ⟨other, member, rfl⟩ := mem_releases new
      exact .inl ⟨rfl, member⟩

/-- Recording an arrival keeps the invariant. -/
theorem arrive (inv : ArriveInv participants id world source) :
    UseInv participants id (world.update (coordinator cluster) id
      ((world.entries (coordinator cluster) id).arriveLocked (coordinator cluster) id source)) := by
  simp only [BarrierEntry.arriveLocked]
  split
  · exact inv.recorded
  · rename_i all
    refine inv.released (fun host => ?_) _
    have set := HostMask.contains_of_eq_all cluster.hostCount_le (not_not.mp all) host.isLt
    rw [contains_arrivals] at set
    simpa using set

end ArriveInv

/-! ## Expected messages -/

section Expected

variable {entry : BarrierEntry} {host : cluster.Host}

/-- An arrival of the current generation is recorded. -/
theorem handle_arrival (id : Nat) (unbroken : entry.broken = false)
    (member : host ≠ coordinator cluster) :
    (entry.handle (arrival host id entry.generation)).2 =
      entry.arriveLocked (coordinator cluster) id host := by
  have nonzero : host.val ≠ 0 := fun zero => member (Fin.ext zero)
  simp [BarrierEntry.handle, arrival, unbroken, nonzero, coordinator]

theorem handle_release (id : Nat) (unbroken : entry.broken = false)
    (reported : entry.reported = true)
    (member : host ≠ coordinator cluster) :
    (entry.handle (release host id entry.generation)).2 = (entry.advance, []) := by
  have nonzero : host.val ≠ 0 := fun zero => member (Fin.ext zero)
  simp [BarrierEntry.handle, release, unbroken, reported, nonzero, coordinator]

end Expected

/-! ## Other identifiers -/

namespace UseInv

variable {participants : cluster.Host → Nat} {id : Nat} {world after : BarrierWorld cluster}

/-- What concerns neither the entries nor the messages of an identifier. -/
theorem frame (inv : UseInv participants id world)
    (returned : ∀ position, after.calls.length ≤ position → after.results position = none)
    (hosts : ∀ host, HostInv participants id after host)
    (entries : ∀ host, after.entries host id = world.entries host id)
    (network : ∀ source target, (traffic after.network id source target).Perm
      (traffic world.network id source target))
    (routes : ∀ message ∈ after.network, message.id = id → message ∈ world.network) :
    UseInv participants id after where
  returned := returned
  hosts := hosts
  leader := by
    rw [entries]
    exact inv.leader
  links := by
    intro host member
    rw [entries, entries]
    exact (inv.links host member).congr rfl rfl rfl rfl (network _ _) (network _ _)
  routes := fun message member sameId => inv.routes message (routes message member sameId) sameId

/-- A change on another identifier. -/
theorem update_other (inv : UseInv participants id world) {host : cluster.Host} {other : Nat}
    (different : other ≠ id) {change : BarrierEntry × List (BarrierMessage cluster)}
    (sent : ∀ message ∈ change.2, message.id = other) :
    UseInv participants id (world.update host other change) := by
  have entries : ∀ host', (world.update host other change).entries host' id =
      world.entries host' id := by
    intro host'
    rw [entries_update, if_neg (fun same => different same.2.symm)]
  refine inv.frame inv.returned (fun host' => ?_) entries (fun source target => ?_) ?_
  · exact (inv.hosts host').of_entry rfl rfl (world.entries host' id).hostArrivals (entries host')
  · simp only [update, traffic_append]
    rw [traffic_eq_nil fun message member same => absurd (same.symm.trans (sent message member))
      different.symm, List.append_nil]
  · intro message member same
    rcases List.mem_append.mp member with earlier | new
    · exact earlier
    · exact absurd (same.symm.trans (sent message new)) different.symm

/-- Messages of other identifiers come and go. -/
theorem withNetwork (inv : UseInv participants id world)
    {network : List (BarrierMessage cluster)}
    (same : ∀ source target, (traffic network id source target).Perm
      (traffic world.network id source target))
    (routes : ∀ message ∈ network, message.id = id → message ∈ world.network) :
    UseInv participants id { world with network := network } :=
  inv.frame inv.returned
    (fun host => (inv.hosts host).of_entry rfl rfl (world.entries host id).hostArrivals rfl)
    (fun _ => rfl) same routes

/-- A counted call on another identifier. -/
theorem call_other (inv : UseInv participants id world) {call : BarrierCall cluster}
    (different : call.id ≠ id) :
    UseInv participants id { world with calls := world.calls ++ [call] } := by
  have fresh := inv.returned world.calls.length le_rfl
  refine inv.frame (fun position above => ?_) (fun host => ?_) (fun _ => rfl)
    (fun _ _ => List.Perm.refl _) (fun _ member _ => member)
  · apply inv.returned
    simp only [List.length_append, List.length_singleton] at above
    omega
  · exact (inv.hosts host).uncount fresh rfl rfl rfl fun _ => different

/-- The return of a call. -/
theorem awake (inv : UseInv participants id world) {position : Nat} {status : Status}
    (taken : world.step (.awake position) = some (status, after)) :
    UseInv participants id after := by
  simp only [step] at taken
  split at taken
  · rename_i call present waits
    obtain ⟨result, woken, same⟩ := Option.map_eq_some_iff.mp taken
    cases same
    have below := (List.getElem?_eq_some_iff.mp present).1
    refine inv.frame (fun later above => ?_) (fun host => ?_) (fun _ => rfl)
      (fun _ _ => List.Perm.refl _) (fun _ member _ => member)
    · have above : world.calls.length ≤ later := above
      simp only
      rw [Function.update_of_ne (by omega)]
      exact inv.returned later above
    · have lost : ∀ test : BarrierCall cluster → Bool, world.pending test =
          ({ world with results := Function.update world.results position (some status) } :
            BarrierWorld cluster).pending test + if test call then 1 else 0 :=
        fun _ => pending_return rfl rfl present waits
      refine (inv.hosts host).congr (world.entries host id).hostArrivals rfl ?_ ?_
      · rw [lost]
        exact Nat.le_add_right _ _
      · rw [lost, left_eq_add, if_neg]
        -- A call returns only when its generation is over.
        intro passes
        simp only [callAt, decide_eq_true_eq] at passes
        obtain ⟨rfl, rfl, current⟩ := passes
        simp [BarrierEntry.awake, (inv.hosts call.host).unbroken, current] at woken
  · simp at taken

/-! ## The identifier itself -/

/-- A change that neither moves the generation nor reports. -/
theorem steady (inv : UseInv participants id world)
    (returned : ∀ position, after.calls.length ≤ position → after.results position = none)
    (hosts : ∀ host, HostInv participants id after host)
    (entries : ∀ host, (after.entries host id).generation = (world.entries host id).generation ∧
      (after.entries host id).reported = (world.entries host id).reported ∧
      (after.entries host id).hostArrivals = (world.entries host id).hostArrivals)
    (network : after.network = world.network) : UseInv participants id after where
  returned := returned
  hosts := hosts
  leader := by
    obtain ⟨-, reported, arrivals⟩ := entries (coordinator cluster)
    rw [reported, arrivals]
    exact inv.leader
  links := by
    intro host member
    obtain ⟨leaderGeneration, -, arrivals⟩ := entries (coordinator cluster)
    obtain ⟨generation, reported, -⟩ := entries host
    rw [network]
    exact (inv.links host member).congr leaderGeneration (by rw [arrivals]) generation reported
      (List.Perm.refl _) (List.Perm.refl _)
  routes := by
    rw [network]
    exact inv.routes

theorem hosts_count (inv : UseInv participants id world) {host : cluster.Host}
    {entry : BarrierEntry} {sent : List (BarrierMessage cluster)}
    (free : world.pending (callOf host id) < participants host)
    (counted : ∃ reported, entry =
      { (world.entries host id).counted (participants host) with reported := reported } ∧
      (reported = true → (world.entries host id).localArrivals + 1 = participants host))
    (other : cluster.Host) :
    HostInv participants id { world.update host id (entry, sent) with
      calls := world.callsAfter host id (participants host) } other := by
  have fresh := inv.returned world.calls.length le_rfl
  obtain ⟨reported, rfl, complete⟩ := counted
  by_cases here : other = host
  · subst here
    have unbroken := (inv.hosts other).unbroken
    refine (inv.hosts other).count fresh free rfl rfl ?_ ?_ ?_ ?_ ?_ <;>
      simp only [entries_update, and_self, if_true, BarrierEntry.counted]
    · exact unbroken
    · exact complete
  · refine (inv.hosts other).uncount fresh rfl rfl ?_ fun same => absurd same.symm here
    simp only [entries_update, here, false_and, if_false]

theorem returned_append (inv : UseInv participants id world) (call : BarrierCall cluster)
    (position : Nat) (above : (world.calls ++ [call]).length ≤ position) :
    world.results position = none := by
  apply inv.returned
  simp only [List.length_append, List.length_singleton] at above
  omega

theorem counts (inv : UseInv participants id world) {host : cluster.Host}
    (unreported : (world.entries host id).reported = false)
    (free : world.pending (callOf host id) < participants host) :
    UseInv participants id
      { world.update host id ((world.entries host id).counted (participants host), []) with
        calls := world.callsAfter host id (participants host) } := by
  refine inv.steady (inv.returned_append _)
    (inv.hosts_count free ⟨false, by rw [← unreported]; rfl, nofun⟩) (fun other => ?_)
    (List.append_nil _)
  simp only [entries_update]
  split
  · rename_i here
    obtain ⟨rfl, -⟩ := here
    exact ⟨rfl, rfl, rfl⟩
  · exact ⟨rfl, rfl, rfl⟩

/-- The last call of a member. -/
theorem reports (inv : UseInv participants id world) {host : cluster.Host}
    (unreported : (world.entries host id).reported = false)
    (free : world.pending (callOf host id) < participants host)
    (complete : (world.entries host id).localArrivals + 1 = participants host)
    (member : host ≠ coordinator cluster) :
    UseInv participants id
      { world.update host id
          ({ (world.entries host id).counted (participants host) with reported := true },
            [arrival host id (world.entries host id).generation]) with
        calls := world.callsAfter host id (participants host) } := by
  constructor
  case returned => exact inv.returned_append _
  case hosts => exact inv.hosts_count free ⟨true, rfl, fun _ => complete⟩
  case leader =>
    simp only [entries_update, member.symm, false_and, if_false]
    exact inv.leader
  case links =>
    intro other otherMember
    simp only [entries_update, member.symm, if_false, and_true]
    have elsewhere : traffic [arrival host id (world.entries host id).generation] id
        (coordinator cluster) other = [] := by
      apply traffic_eq_nil
      intro message sent _ fromLeader
      obtain rfl := List.mem_singleton.mp sent
      exact absurd fromLeader member
    by_cases here : other = host
    · subst here
      rw [if_pos rfl]
      have own : traffic [arrival other id (world.entries other id).generation] id other
          (coordinator cluster) = [arrival other id (world.entries other id).generation] := by
        simp [traffic, arrival]
      cases inv.links other otherMember with
      | idle same _ clear up down =>
          refine .arriving same rfl clear ?_ ?_
          · simp only [BarrierWorld.update, traffic_append, own]
            exact up.append_right _
          · simp only [BarrierWorld.update, traffic_append, elsewhere, List.append_nil]
            exact down
      | arriving _ reported | arrived _ reported | releasing _ reported =>
          rw [unreported] at reported
          cases reported
    · rw [if_neg here]
      have foreign : traffic [arrival host id (world.entries host id).generation] id other
          (coordinator cluster) = [] := by
        apply traffic_eq_nil
        intro message sent _ fromOther
        obtain rfl := List.mem_singleton.mp sent
        exact absurd fromOther.symm here
      refine (inv.links other otherMember).congr rfl rfl rfl rfl ?_ ?_
      · simp only [BarrierWorld.update, traffic_append, foreign, List.append_nil]
        exact List.Perm.refl _
      · simp only [BarrierWorld.update, traffic_append, elsewhere, List.append_nil]
        exact List.Perm.refl _
  case routes =>
    intro message sent sameId
    rcases List.mem_append.mp sent with earlier | new
    · exact inv.routes message earlier sameId
    · obtain rfl := List.mem_singleton.mp new
      exact .inr ⟨member, rfl⟩

theorem leads (inv : UseInv participants id world)
    (free : world.pending (callOf (coordinator cluster) id) < participants (coordinator cluster))
    (complete : (world.entries (coordinator cluster) id).localArrivals + 1 =
      participants (coordinator cluster)) :
    UseInv participants id
      { world.update (coordinator cluster) id
          (({ (world.entries (coordinator cluster) id).counted
              (participants (coordinator cluster)) with reported := true } :
                BarrierEntry).arriveLocked (coordinator cluster) id (coordinator cluster)) with
        calls := world.callsAfter (coordinator cluster) id
          (participants (coordinator cluster)) } := by
  have ready : ArriveInv participants id
      { world.update (coordinator cluster) id
          ({ (world.entries (coordinator cluster) id).counted
              (participants (coordinator cluster)) with reported := true }, []) with
        calls := world.callsAfter (coordinator cluster) id (participants (coordinator cluster)) }
      (coordinator cluster) := by
    have network : (world.update (coordinator cluster) id
        ({ (world.entries (coordinator cluster) id).counted
          (participants (coordinator cluster)) with reported := true }, [])).network =
            world.network := List.append_nil _
    constructor
    case returned => exact inv.returned_append _
    case hosts => exact inv.hosts_count free ⟨true, rfl, fun _ => complete⟩
    case leader =>
      refine .inr ⟨rfl, ?_⟩
      simp only [entries_update, and_self, if_true]
    case links =>
      intro other member _
      simp only [entries_update, and_self, if_true, member, false_and, if_false, network]
      exact (inv.links other member).congr rfl rfl rfl rfl (List.Perm.refl _) (List.Perm.refl _)
    case arriving => exact fun other => absurd rfl other
    case routes =>
      simp only [network]
      exact inv.routes
  have arrived := ready.arrive
  simp only [entries_update, and_self, if_true] at arrived
  simpa [BarrierWorld.update] using arrived

/-- The first part of a call. -/
theorem wait (inv : UseInv participants id world) {host : cluster.Host} {other count : Nat}
    {status : Status} (correct : UsesCorrectly participants id world (.wait host other count))
    (taken : world.step (.wait host other count) = some (status, after)) :
    UseInv participants id after := by
  simp only [step] at taken
  by_cases same : other = id
  · subst same
    obtain ⟨rfl, free⟩ := correct rfl
    have host' := inv.hosts host
    have outcome := (world.entries host other).wait_outcome host other (participants host)
    generalize (world.entries host other).wait host other (participants host) = result
      at outcome taken
    cases outcome with
    | refused refusal =>
        cases taken
        refine inv.steady inv.returned
          (fun h => (inv.hosts h).of_entry rfl rfl (world.entries h other).hostArrivals ?_)
          (fun h => ?_) (List.append_nil _)
        · rw [entries_update]
          split
          · rename_i here
            rw [here.1]
          · rfl
        · rw [entries_update]
          split
          · rename_i here
            rw [here.1]
            exact ⟨rfl, rfl, rfl⟩
          · exact ⟨rfl, rfl, rfl⟩
    | mismatch _ _ announced differs =>
        exact (host'.announced.elim announced differs).elim
    | overfull _ _ _ _ reported =>
        have full := host'.reported reported
        have counted := host'.counted
        have bound : world.pending (callAt host other (world.entries host other).generation) ≤
            world.pending (callOf host other) := pending_le fun call => callAt_callOf call
        omega
    | arrived _ _ _ unreported _ =>
        cases taken
        exact inv.counts unreported free
    | coordinated _ _ _ _ complete zero =>
        cases taken
        obtain rfl : host = coordinator cluster := Fin.ext zero
        exact inv.leads free complete
    | reported _ _ _ unreported complete nonzero =>
        cases taken
        refine inv.reports unreported free complete ?_
        rintro rfl
        exact nonzero rfl
  · have updated : UseInv participants id (world.update host other
        ((world.entries host other).wait host other count).2) :=
          inv.update_other same BarrierEntry.wait_id
    split at taken
    · cases taken
      exact updated
    · cases taken
      exact updated.call_other same

theorem deliver_arrival (inv : UseInv participants id world) {position : Nat}
    {message : BarrierMessage cluster} (present : world.network[position]? = some message)
    (sameId : message.id = id) (member : message.source ≠ coordinator cluster)
    (leader : message.target = coordinator cluster) :
    UseInv participants id
      ({ world with network := world.network.eraseIdx position }.update message.target message.id
        ((world.entries message.target message.id).handle message).2) := by
  subst sameId
  have rest : ∀ other ∈ world.network.eraseIdx position, other ∈ world.network :=
    fun other kept => List.mem_of_mem_eraseIdx kept
  have taken := traffic_erase_self present
  rw [leader] at taken ⊢
  have waiting : (world.entries (coordinator cluster) message.id).generation =
        (world.entries message.source message.id).generation ∧
      (world.entries message.source message.id).reported = true ∧
      message = arrival message.source message.id
        (world.entries message.source message.id).generation ∧
      (traffic (world.network.eraseIdx position) message.id message.source
        (coordinator cluster)).Perm [] ∧
      (traffic world.network message.id (coordinator cluster) message.source).Perm [] := by
    cases inv.links message.source member with
    | idle _ _ _ up | arrived _ _ _ up | releasing _ _ _ up =>
        exact absurd (up.symm.trans taken) (by simp)
    | arriving same reported _ up down =>
        have single := List.singleton_perm.mp (up.symm.trans taken)
        rw [List.cons.injEq] at single
        exact ⟨same, reported, single.1.symm, by rw [← single.2], down⟩
  obtain ⟨same, reported, shape, up, down⟩ := waiting
  have down' : (traffic (world.network.eraseIdx position) message.id (coordinator cluster)
      message.source).Perm [] :=
    (traffic_erase_other present fun _ fromLeader => absurd fromLeader member).symm.trans down
  have ready : ArriveInv participants message.id
      { world with network := world.network.eraseIdx position } message.source := by
    refine ⟨inv.returned, fun host => (inv.hosts host).of_entry rfl rfl
      (world.entries host message.id).hostArrivals rfl, .inl ⟨member, inv.leader⟩, ?_,
      fun _ => ⟨same, reported, up, down'⟩, fun other kept => inv.routes other (rest other kept)⟩
    intro host otherMember different
    refine (inv.links host otherMember).congr rfl rfl rfl rfl ?_ ?_
    · exact (traffic_erase_other present fun _ fromHost => absurd fromHost.symm different).symm
    · exact (traffic_erase_other present fun _ fromLeader => absurd fromLeader member).symm
  have unbroken := (inv.hosts (coordinator cluster)).unbroken
  have handled : ((world.entries (coordinator cluster) message.id).handle message).2 =
      (world.entries (coordinator cluster) message.id).arriveLocked (coordinator cluster)
        message.id message.source := by
    have handled := handle_arrival message.id unbroken member
    rw [same, ← shape] at handled
    exact handled
  rw [handled]
  exact ready.arrive

theorem deliver_release (inv : UseInv participants id world) {position : Nat}
    {message : BarrierMessage cluster} (present : world.network[position]? = some message)
    (sameId : message.id = id) (leader : message.source = coordinator cluster)
    (member : message.target ≠ coordinator cluster) :
    UseInv participants id
      ({ world with network := world.network.eraseIdx position }.update message.target message.id
        ((world.entries message.target message.id).handle message).2) := by
  subst sameId
  have taken := traffic_erase_self present
  rw [leader] at taken
  have waiting : (world.entries (coordinator cluster) message.id).generation =
        ((world.entries message.target message.id).generation + 1) % generationModulus ∧
      (world.entries message.target message.id).reported = true ∧
      (world.entries (coordinator cluster) message.id).hostArrivals.contains message.target =
        false ∧
      message = release message.target message.id
        (world.entries message.target message.id).generation ∧
      (traffic world.network message.id message.target (coordinator cluster)).Perm [] ∧
      (traffic (world.network.eraseIdx position) message.id (coordinator cluster)
        message.target).Perm [] := by
    cases inv.links message.target member with
    | idle _ _ _ _ down | arrived _ _ _ _ down | arriving _ _ _ _ down =>
        exact absurd (down.symm.trans taken) (by simp)
    | releasing ahead reported clear up down =>
        have single := List.singleton_perm.mp (down.symm.trans taken)
        rw [List.cons.injEq] at single
        exact ⟨ahead, reported, clear, single.1.symm, up, by rw [← single.2]⟩
  obtain ⟨ahead, reported, clear, shape, up, down⟩ := waiting
  have unbroken := (inv.hosts message.target).unbroken
  have handled : ((world.entries message.target message.id).handle message).2 =
      ((world.entries message.target message.id).advance, []) := by
    have handled := handle_release message.id unbroken reported member
    rw [← shape] at handled
    exact handled
  have network : ({ world with network := world.network.eraseIdx position }.update message.target
      message.id ((world.entries message.target message.id).advance, [])).network =
        world.network.eraseIdx position := List.append_nil _
  rw [handled]
  constructor
  case returned => exact inv.returned
  case hosts =>
    intro host
    by_cases here : host = message.target
    · subst here
      refine (inv.hosts message.target).advance reported rfl rfl ?_ ?_ ?_ ?_ ?_ <;>
        rw [entries_update, if_pos ⟨rfl, rfl⟩]
      · exact unbroken
      · rfl
      · rfl
      · rfl
      · rfl
    · refine (inv.hosts host).of_entry rfl rfl (world.entries host message.id).hostArrivals ?_
      rw [entries_update, if_neg (fun same => here same.1)]
  case leader =>
    rw [entries_update, if_neg (fun same => member same.1.symm)]
    exact inv.leader
  case links =>
    intro host otherMember
    rw [entries_update, if_neg (fun same => member same.1.symm), entries_update, network]
    have up' : (traffic (world.network.eraseIdx position) message.id host
        (coordinator cluster)).Perm
          (traffic world.network message.id host (coordinator cluster)) :=
      (traffic_erase_other present fun _ _ toLeader => absurd toLeader member).symm
    by_cases here : host = message.target
    · subst here
      rw [if_pos ⟨rfl, rfl⟩]
      exact .idle ahead rfl clear (up'.trans up) down
    · rw [if_neg (fun same => here same.1)]
      refine (inv.links host otherMember).congr rfl rfl rfl rfl up' ?_
      exact (traffic_erase_other present fun _ _ toHost => absurd toHost.symm here).symm
  case routes =>
    rw [network]
    exact fun other kept => inv.routes other (List.mem_of_mem_eraseIdx kept)

theorem deliver (inv : UseInv participants id world) {position : Nat} {status : Status}
    (taken : world.step (.deliver position) = some (status, after)) :
    UseInv participants id after := by
  obtain ⟨message, present, same⟩ := Option.map_eq_some_iff.mp taken
  cases same
  by_cases sameId : message.id = id
  · rcases inv.routes message (List.mem_of_getElem? present) sameId with
      ⟨leader, member⟩ | ⟨member, leader⟩
    · exact inv.deliver_release present sameId leader member
    · exact inv.deliver_arrival present sameId member leader
  · have erased : UseInv participants id
        { world with network := world.network.eraseIdx position } :=
      inv.withNetwork
        (fun source target => (traffic_erase_other present fun same => absurd same sameId).symm)
        (fun other kept _ => List.mem_of_mem_eraseIdx kept)
    exact erased.update_other sameId BarrierEntry.handle_id

/-- Every step of a correct use keeps the invariant. -/
theorem step (inv : UseInv participants id world) {op : BarrierOp cluster} {status : Status}
    (correct : UsesCorrectly participants id world op)
    (taken : world.step op = some (status, after)) : UseInv participants id after := by
  have appended : ∀ message : BarrierMessage cluster, message.id ≠ id →
      UseInv participants id { world with network := world.network ++ [message] } := by
    intro message different
    have elsewhere : ∀ source target, traffic [message] id source target = [] := by
      intro source target
      apply traffic_eq_nil
      intro other member same
      rw [List.mem_singleton.mp member] at same
      exact absurd same different
    refine inv.withNetwork (fun source target => ?_) (fun other member same => ?_)
    · rw [traffic_append, elsewhere, List.append_nil]
    · rcases List.mem_append.mp member with earlier | new
      · exact earlier
      · rw [List.mem_singleton.mp new] at same
        exact absurd same different
  cases op with
  | wait host other count => exact inv.wait correct taken
  | awake position => exact inv.awake taken
  | deliver position => exact inv.deliver taken
  | duplicate position =>
      obtain ⟨message, present, same⟩ := Option.map_eq_some_iff.mp taken
      cases same
      exact appended message (correct message present)
  | inject message =>
      cases taken
      exact appended message correct
  | breakBarrier host other =>
      cases taken
      exact inv.update_other correct BarrierEntry.breakLocked_id

end UseInv

theorem initial_use (participants : cluster.Host → Nat) (id : Nat) :
    UseInv participants id (initial cluster) := by
  constructor
  case returned => exact fun _ _ => rfl
  case hosts =>
    intro host
    constructor <;> simp [initial, BarrierEntry.fresh, pending]
  case leader => simp [initial, BarrierEntry.fresh]
  case links =>
    intro host _
    exact .idle rfl rfl (by simp [initial, BarrierEntry.fresh]) (List.Perm.refl _)
      (List.Perm.refl _)
  case routes => simp [initial]

theorem reached_use {participants : cluster.Host → Nat} {id : Nat} {world : BarrierWorld cluster}
    (execution : Run.ReachesBy next (UsesCorrectly participants id) (initial cluster) world) :
    UseInv participants id world := by
  apply execution.preserves
  · exact initial_use participants id
  · intro before op after inv correct performed
    obtain ⟨⟨status, reached⟩, taken, same⟩ := Option.map_eq_some_iff.mp performed
    obtain rfl : reached = after := same
    exact inv.step correct taken

/-- A correctly used barrier never breaks; the coordinator is level with every other host or one
generation ahead, and at most one message is in flight in each direction between them. -/
theorem correct_use_never_breaks {participants : cluster.Host → Nat} {id : Nat}
    {world : BarrierWorld cluster}
    (execution : Run.ReachesBy next (UsesCorrectly participants id) (initial cluster) world) :
    (∀ host, (world.entries host id).broken = false) ∧
    ∀ host, host ≠ coordinator cluster →
      ((world.entries (coordinator cluster) id).generation = (world.entries host id).generation ∨
        (world.entries (coordinator cluster) id).generation =
          ((world.entries host id).generation + 1) % generationModulus) ∧
      (traffic world.network id host (coordinator cluster)).length ≤ 1 ∧
      (traffic world.network id (coordinator cluster) host).length ≤ 1 := by
  have inv := reached_use execution
  refine ⟨fun host => (inv.hosts host).unbroken, fun host member => ?_⟩
  cases inv.links host member with
  | idle same _ _ up down | arriving same _ _ up down | arrived same _ _ up down =>
      exact ⟨.inl same, by simp [up.length_eq], by simp [down.length_eq]⟩
  | releasing ahead _ _ up down =>
      exact ⟨.inr ahead, by simp [up.length_eq], by simp [down.length_eq]⟩

/-- Two participants on the coordinator and one on the other host pass one generation; the
coordinator has entered the next one before the release arrives. -/
def twoRoundsOps : List (BarrierOp twoHosts) :=
  [.wait ⟨1, Nat.one_lt_two⟩ 7 1, .wait ⟨0, Nat.two_pos⟩ 7 2, .wait ⟨0, Nat.two_pos⟩ 7 2,
    .deliver 0,
    .awake 1, .wait ⟨0, Nat.two_pos⟩ 7 2]

theorem correct_use_never_breaks_twoRounds :
    ∃ world, Run.runLabels next (initial twoHosts) twoRoundsOps = some world ∧
      (world.entries (coordinator twoHosts) 7).generation = 1 ∧
      (world.entries ⟨1, by decide⟩ 7).generation = 0 ∧
      (world.entries ⟨1, by decide⟩ 7).broken = false ∧
      (traffic world.network 7 (coordinator twoHosts) ⟨1, by decide⟩).length ≤ 1 := by
  have outcome : (Run.runLabels next (initial twoHosts) twoRoundsOps).any (fun world =>
      (world.entries (coordinator twoHosts) 7).generation = 1 ∧
        (world.entries ⟨1, by decide⟩ 7).generation = 0) = true := by
    decide +kernel
  have correct : Run.AdmitsLabels next (UsesCorrectly (fun host => 2 - host.val) 7)
      (initial twoHosts) twoRoundsOps := by
    decide +kernel
  obtain ⟨world, execution, facts⟩ := (Option.any_eq_true _ _).mp outcome
  obtain ⟨ahead, behind⟩ := of_decide_eq_true facts
  obtain ⟨unbroken, links⟩ :=
    correct_use_never_breaks (Run.reachesBy_of_runLabels execution correct)
  exact ⟨world, execution, ahead, behind, unbroken _, (links ⟨1, by decide⟩ (by decide)).2.2⟩

end BarrierWorld
end Cxloom.LoomPar
