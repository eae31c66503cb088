import Cxloom.LoomPar.BarrierUse

/-!
# Rounds of a correctly used barrier

The generation of an entry has 64 bits.  On each host the counted calls of a correctly used
identifier form groups of as many as the host has participants.  The number of its group is the
round of a call, and the generation at which the call entered is that number in 64 bits.  When a
call has returned success, every host has had all its calls of the same round.
-/

namespace Cxloom.LoomPar
namespace BarrierWorld

variable {cluster : Cluster}

def callCount (calls : List (BarrierCall cluster)) (host : cluster.Host) (id : Nat) : Nat :=
  calls.countP (callOf host id)

/-- Number of complete groups of calls on a host before a counted call. -/
def round (participants : cluster.Host → Nat) (calls : List (BarrierCall cluster))
    (position : Nat) : Nat :=
  match calls[position]? with
  | some call => callCount (calls.take position) call.host call.id / participants call.host
  | none => 0

/-- What one action can do to the entry of a host with a number of new calls. -/
inductive EntryMove (participants : Nat) (before after : BarrierEntry) (added : Nat) : Nat → Prop
  | stays (generation : after.generation = before.generation)
      (arrivals : after.localArrivals = before.localArrivals + added) :
      EntryMove participants before after added 0
  | advances (generation : after.generation = (before.generation + 1) % generationModulus)
      (arrivals : after.localArrivals = 0)
      (complete : before.localArrivals + added = participants) :
      EntryMove participants before after added 1

/-- The unbounded generations of the hosts. -/
structure RoundInv (participants : cluster.Host → Nat) (id : Nat) (world : BarrierWorld cluster)
    (rounds : cluster.Host → Nat) : Prop where
  generations : ∀ host, (world.entries host id).generation = rounds host % generationModulus
  /-- Every generation that has passed had the calls of all participants. -/
  totals : ∀ host, callCount world.calls host id =
    rounds host * participants host + (world.entries host id).localArrivals
  ahead : ∀ host, host ≠ coordinator cluster →
    rounds (coordinator cluster) = rounds host ∨ rounds (coordinator cluster) = rounds host + 1
  entered : ∀ (position : Nat) call, world.calls[position]? = some call → call.id = id →
    call.generation = round participants world.calls position % generationModulus ∧
      round participants world.calls position ≤ rounds call.host
  /-- A call returns success when its host has left the round. -/
  results : ∀ (position : Nat) call, world.calls[position]? = some call → call.id = id →
    world.results position = some .ok → round participants world.calls position < rounds call.host

section Calls

variable {calls : List (BarrierCall cluster)} {participants : cluster.Host → Nat}

theorem callCount_append (call : BarrierCall cluster) (host : cluster.Host) (id : Nat) :
    callCount (calls ++ [call]) host id =
      callCount calls host id + if callOf host id call then 1 else 0 := by
  simp [callCount, List.countP_append, List.countP_singleton]

theorem round_append (later : List (BarrierCall cluster)) {position : Nat}
    (below : position < calls.length) :
    round participants (calls ++ later) position = round participants calls position := by
  simp only [round]
  rw [List.getElem?_append_left below, List.take_append_of_le_length (Nat.le_of_lt below)]

theorem getElem?_append_new {call other : BarrierCall cluster} {position : Nat}
    (beyond : ¬position < calls.length) (present : (calls ++ [call])[position]? = some other) :
    position = calls.length ∧ other = call := by
  obtain ⟨below, rfl⟩ := List.getElem?_eq_some_iff.mp present
  rw [List.length_append, List.length_singleton] at below
  obtain rfl : position = calls.length := by omega
  simp

theorem round_new (call : BarrierCall cluster) :
    round participants (calls ++ [call]) calls.length =
      callCount calls call.host call.id / participants call.host := by
  simp [round]

end Calls

/-! ## One action -/

section Moves

variable {participants : cluster.Host → Nat} {id : Nat} {world after : BarrierWorld cluster}

theorem EntryMove.still {participants : Nat} {entry : BarrierEntry} :
    EntryMove participants entry entry 0 0 :=
  .stays rfl rfl

theorem breakLocked_still {entry : BarrierEntry} (host : cluster.Host) (participants : Nat) :
    EntryMove participants entry (entry.breakLocked host id).1 0 0 := by
  simp only [BarrierEntry.breakLocked]
  split
  · exact .still
  · exact .stays rfl rfl

/-- Recording an arrival advances an entry with the calls of all participants. -/
theorem arriveLocked_move {entry : BarrierEntry} {host source : cluster.Host}
    {participants added : Nat}
    (complete : entry.hostArrivals ||| HostMask.bit source = HostMask.all cluster.hostCount →
      entry.localArrivals = participants)
    {previous : BarrierEntry} (generation : entry.generation = previous.generation)
    (arrivals : entry.localArrivals = previous.localArrivals + added) :
    ∃ passed,
      EntryMove participants previous (entry.arriveLocked host id source).1 added passed := by
  simp only [BarrierEntry.arriveLocked]
  split
  · exact ⟨0, .stays generation arrivals⟩
  · rename_i all
    refine ⟨1, .advances ?_ rfl ?_⟩
    · simp [BarrierEntry.advance, generation]
    · rw [← arrivals]
      exact complete (not_not.mp all)

theorem UseInv.complete (inv : UseInv participants id world) {source : cluster.Host}
    (member : source ≠ coordinator cluster)
    (all : (world.entries (coordinator cluster) id).hostArrivals ||| HostMask.bit source =
      HostMask.all cluster.hostCount) :
    (world.entries (coordinator cluster) id).localArrivals =
      participants (coordinator cluster) := by
  have set := HostMask.contains_of_eq_all cluster.hostCount_le all (coordinator cluster).isLt
  rw [ArriveInv.contains_arrivals, decide_eq_false (Ne.symm member), Bool.or_false] at set
  have reported := inv.leader
  rw [show (0 : Nat) = (coordinator cluster).val from rfl, set] at reported
  exact (inv.hosts (coordinator cluster)).reported reported.symm

/-- A delivery adds no call. -/
theorem handle_moves (inv : UseInv participants id world) (message : BarrierMessage cluster) :
    ∃ passed, EntryMove (participants message.target) (world.entries message.target id)
      ((world.entries message.target id).handle message).2.1 0 passed := by
  simp only [BarrierEntry.handle]
  split
  · split
    · exact ⟨0, .still⟩
    · exact ⟨0, .stays rfl rfl⟩
  · split
    · exact ⟨0, .still⟩
    · split
      · exact ⟨0, breakLocked_still _ _⟩
      · split
        · rename_i arrival
          have leader : message.target = coordinator cluster := Fin.ext arrival.2.1
          have member : message.source ≠ coordinator cluster := by
            intro same
            exact arrival.2.2 (by rw [same]; rfl)
          refine arriveLocked_move ?_ rfl rfl
          rw [leader]
          exact inv.complete member
        · split
          · rename_i released
            exact ⟨1, .advances rfl rfl ((inv.hosts message.target).reported released.2.2.2)⟩
          · exact ⟨0, breakLocked_still _ _⟩

theorem wait_moves {host : cluster.Host} {status : Status}
    (taken : world.step (.wait host id (participants host)) = some (status, after)) :
    ∃ added passed, callCount after.calls host id = callCount world.calls host id + added ∧
      EntryMove (participants host) (world.entries host id)
        (after.entries host id) added passed := by
  simp only [step] at taken
  have outcome := (world.entries host id).wait_outcome host id (participants host)
  generalize (world.entries host id).wait host id (participants host) = result at outcome taken
  have counts : ∀ calls : List (BarrierCall cluster), ∀ generation,
      callCount (calls ++ [⟨host, id, generation, participants host⟩]) host id =
        callCount calls host id + 1 := by
    intro calls generation
    rw [callCount_append, callOf, if_pos (by simp)]
  cases outcome with
  | refused refusal =>
      cases taken
      refine ⟨0, 0, rfl, ?_⟩
      rw [entries_update, if_pos ⟨rfl, rfl⟩]
      exact .still
  | mismatch =>
      cases taken
      refine ⟨0, 0, rfl, ?_⟩
      rw [entries_update, if_pos ⟨rfl, rfl⟩]
      exact breakLocked_still _ _
  | overfull _ _ _ _ reported =>
      cases taken
      refine ⟨0, 0, rfl, ?_⟩
      rw [entries_update, if_pos ⟨rfl, rfl⟩]
      simp only [BarrierEntry.breakLocked]
      split
      · exact .stays rfl rfl
      · exact .stays rfl rfl
  | arrived =>
      cases taken
      refine ⟨1, 0, counts _ _, ?_⟩
      simp only [entries_update, and_self, if_true]
      exact .stays rfl rfl
  | coordinated _ _ _ _ complete =>
      cases taken
      have moves : ∃ passed, EntryMove (participants host) (world.entries host id)
          (({ (world.entries host id).counted (participants host) with
              reported := true } : BarrierEntry).arriveLocked host id host).1 1 passed :=
        arriveLocked_move (fun _ => complete) rfl rfl
      obtain ⟨passed, move⟩ := moves
      refine ⟨1, passed, counts _ _, ?_⟩
      simp only [entries_update, and_self, if_true]
      exact move
  | reported =>
      cases taken
      refine ⟨1, 0, counts _ _, ?_⟩
      simp only [entries_update, and_self, if_true]
      exact .stays rfl rfl

theorem step_moves (inv : UseInv participants id world) {op : BarrierOp cluster} {status : Status}
    (correct : UsesCorrectly participants id world op)
    (taken : world.step op = some (status, after)) (host : cluster.Host) :
    ∃ added passed, callCount after.calls host id = callCount world.calls host id + added ∧
      EntryMove (participants host) (world.entries host id)
        (after.entries host id) added passed := by
  have still : after.calls = world.calls → after.entries = world.entries →
      ∃ added passed, callCount after.calls host id = callCount world.calls host id + added ∧
        EntryMove (participants host) (world.entries host id) (after.entries host id) added
          passed := by
    intro calls entries
    rw [calls, entries]
    exact ⟨0, 0, rfl, .still⟩
  cases op with
  | wait caller other count =>
      by_cases same : caller = host ∧ other = id
      · obtain ⟨rfl, rfl⟩ := same
        obtain ⟨rfl, -⟩ := correct rfl
        exact wait_moves taken
      · have elsewhere : ¬(host = caller ∧ id = other) :=
          fun here => same ⟨here.1.symm, here.2.symm⟩
        refine ⟨0, 0, ?_⟩
        simp only [step] at taken
        split at taken
        · cases taken
          rw [entries_update, if_neg elsewhere]
          exact ⟨rfl, .still⟩
        · cases taken
          simp only [entries_update, if_neg elsewhere, callCount_append]
          refine ⟨?_, .still⟩
          rw [if_neg (by simpa [callOf] using same)]
  | awake position =>
      simp only [step] at taken
      split at taken
      · obtain ⟨result, -, same⟩ := Option.map_eq_some_iff.mp taken
        cases same
        exact still rfl rfl
      · simp at taken
  | deliver position =>
      obtain ⟨message, present, same⟩ := Option.map_eq_some_iff.mp taken
      cases same
      refine ⟨0, ?_⟩
      rw [entries_update]
      split
      · rename_i here
        obtain ⟨rfl, sameId⟩ := here
        subst sameId
        obtain ⟨passed, move⟩ := handle_moves inv message
        exact ⟨passed, rfl, move⟩
      · exact ⟨0, rfl, .still⟩
  | duplicate position =>
      obtain ⟨message, present, same⟩ := Option.map_eq_some_iff.mp taken
      cases same
      exact still rfl rfl
  | inject message =>
      cases taken
      exact still rfl rfl
  | breakBarrier breaker other =>
      cases taken
      refine ⟨0, 0, rfl, ?_⟩
      rw [entries_update, if_neg (fun same => correct same.2.symm)]
      exact .still

/-- A new call enters at the generation of its host. -/
theorem step_calls {op : BarrierOp cluster} {status : Status}
    (taken : world.step op = some (status, after)) :
    (after.calls = world.calls ∧
      ∀ (position : Nat) call, world.calls[position]? = some call →
        after.results position = some .ok → world.results position = some .ok ∨
          (world.entries call.host call.id).generation ≠ call.generation) ∨
      ∃ host other count, op = .wait host other count ∧ after.results = world.results ∧
        after.calls = world.calls ++
          [⟨host, other, (world.entries host other).generation, count⟩] := by
  cases op with
  | wait host other count =>
      simp only [step] at taken
      have outcome := (world.entries host other).wait_outcome host other count
      generalize (world.entries host other).wait host other count = result at outcome taken
      cases outcome with
      | refused | mismatch | overfull =>
          cases taken
          exact .inl ⟨rfl, fun _ _ _ => .inl⟩
      | arrived | coordinated | reported =>
          cases taken
          exact .inr ⟨host, other, count, rfl, rfl, rfl⟩
  | awake position =>
      simp only [step] at taken
      split at taken
      · rename_i call present waits
        obtain ⟨result, awakened, same⟩ := Option.map_eq_some_iff.mp taken
        cases same
        refine .inl ⟨rfl, ?_⟩
        intro other entered called succeeded
        by_cases here : other = position
        · subst here
          obtain rfl : call = entered := Option.some.inj (present.symm.trans called)
          simp only [Function.update_self, Option.some.injEq] at succeeded
          subst succeeded
          simp only [BarrierEntry.awake] at awakened
          split at awakened
          · cases Option.some.inj awakened
          · split at awakened
            · rename_i left
              exact .inr left
            · simp at awakened
        · simp only [Function.update_of_ne here] at succeeded
          exact .inl succeeded
      · simp at taken
  | deliver position | duplicate position =>
      obtain ⟨message, present, same⟩ := Option.map_eq_some_iff.mp taken
      cases same
      exact .inl ⟨rfl, fun _ _ _ => .inl⟩
  | inject message | breakBarrier breaker other =>
      cases taken
      exact .inl ⟨rfl, fun _ _ _ => .inl⟩

/-- A returned call keeps its status. -/
theorem step_results {op : BarrierOp cluster} {status result : Status} {position : Nat}
    (taken : world.step op = some (status, after))
    (returned : world.results position = some result) : after.results position = some result := by
  cases op with
  | wait host other count =>
      simp only [step] at taken
      split at taken
      · cases taken
        exact returned
      · cases taken
        exact returned
  | awake call =>
      simp only [step] at taken
      split at taken
      · rename_i present waits
        obtain ⟨awakened, -, same⟩ := Option.map_eq_some_iff.mp taken
        cases same
        have different : position ≠ call := by
          rintro rfl
          rw [returned] at waits
          cases waits
        simp only [Function.update_of_ne different]
        exact returned
      · simp at taken
  | deliver index | duplicate index =>
      obtain ⟨message, present, same⟩ := Option.map_eq_some_iff.mp taken
      cases same
      exact returned
  | inject message | breakBarrier breaker other =>
      cases taken
      exact returned

end Moves

/-! ## Runs -/

section Runs

variable {participants : cluster.Host → Nat} {id : Nat} {world after : BarrierWorld cluster}
  {rounds : cluster.Host → Nat}

/-- The unbounded generation of a host whose entry moved. -/
theorem EntryMove.passes {participants added passed round : Nat} {before after : BarrierEntry}
    (move : EntryMove participants before after added passed)
    (generation : before.generation = round % generationModulus) :
    after.generation = (round + passed) % generationModulus ∧
      (round + passed) * participants + after.localArrivals =
        round * participants + before.localArrivals + added := by
  cases move with
  | stays same arrivals =>
      refine ⟨same.trans generation, ?_⟩
      rw [Nat.add_zero, arrivals]
      omega
  | advances next arrivals complete =>
      refine ⟨?_, ?_⟩
      · rw [next, generation, Nat.mod_add_mod]
      · rw [Nat.add_mul, Nat.one_mul, arrivals]
        omega

theorem EntryMove.passed_le {participants added passed : Nat} {before after : BarrierEntry}
    (move : EntryMove participants before after added passed) : passed ≤ 1 := by
  cases move <;> omega

/-- Between two hosts lies at most what their link says. -/
theorem UseInv.level (inv : UseInv participants id world) {host : cluster.Host}
    (member : host ≠ coordinator cluster) :
    (world.entries (coordinator cluster) id).generation = (world.entries host id).generation ∨
      (world.entries (coordinator cluster) id).generation =
          ((world.entries host id).generation + 1) % generationModulus ∧
        (world.entries host id).localArrivals = participants host := by
  cases inv.links host member with
  | idle same | arriving same | arrived same => exact .inl same
  | releasing ahead reported => exact .inr ⟨ahead, (inv.hosts host).reported reported⟩

/-- A participant that may call finds room in the current group. -/
theorem UseInv.room (inv : UseInv participants id world) {host : cluster.Host}
    (free : world.pending (callOf host id) < participants host) :
    (world.entries host id).localArrivals < participants host := by
  have counted := (inv.hosts host).counted
  have bound : world.pending (callAt host id (world.entries host id).generation) ≤
      world.pending (callOf host id) := pending_le fun call => callAt_callOf call
  omega

/-- The coordinator stays level with every other host or one generation ahead: no action moves a
host by more than one, and the 64 bits tell the remaining distances apart. -/
theorem UseInv.ahead (inv : UseInv participants id world) {host : cluster.Host}
    (member : host ≠ coordinator cluster)
    (generations : ∀ host, (world.entries host id).generation = rounds host % generationModulus)
    (near : rounds (coordinator cluster) ≤ rounds host + 2)
    (behind : rounds host ≤ rounds (coordinator cluster) + 1) :
    rounds (coordinator cluster) = rounds host ∨
      rounds (coordinator cluster) = rounds host + 1 := by
  have level := inv.level member
  rw [generations, generations, Nat.mod_add_mod] at level
  simp only [generationModulus] at level
  omega

/-- The round at which the next call of a host enters. -/
theorem RoundInv.round_now (rounded : RoundInv participants id world rounds) {host : cluster.Host}
    (room : (world.entries host id).localArrivals < participants host) :
    callCount world.calls host id / participants host = rounds host := by
  apply Nat.div_eq_of_lt_le
  · rw [rounded.totals]
    omega
  · rw [rounded.totals, Nat.add_mul, Nat.one_mul]
    omega

theorem RoundInv.step (rounded : RoundInv participants id world rounds)
    (inv : UseInv participants id world) {op : BarrierOp cluster} {status : Status}
    (correct : UsesCorrectly participants id world op)
    (taken : world.step op = some (status, after)) :
    ∃ later, RoundInv participants id after later := by
  have moves := step_moves inv correct taken
  choose added passed counted moved using moves
  have generations : ∀ host, (after.entries host id).generation =
      (rounds host + passed host) % generationModulus :=
    fun host => ((moved host).passes (rounded.generations host)).1
  have grows : ∀ host, rounds host ≤ rounds host + passed host := fun host => Nat.le_add_right _ _
  refine ⟨fun host => rounds host + passed host, generations, ?_, ?_, ?_, ?_⟩
  · intro host
    have total := ((moved host).passes (rounded.generations host)).2
    rw [counted, rounded.totals]
    omega
  · intro host member
    have near := rounded.ahead host member
    have leads := (moved (coordinator cluster)).passed_le
    have follows := (moved host).passed_le
    exact (inv.step correct taken).ahead member generations (by omega) (by omega)
  · intro position call called sameId
    rcases step_calls taken with ⟨calls, -⟩ | ⟨caller, other, count, rfl, -, calls⟩
    · rw [calls] at called ⊢
      obtain ⟨entered, bound⟩ := rounded.entered position call called sameId
      exact ⟨entered, bound.trans (grows _)⟩
    · rw [calls] at called ⊢
      by_cases below : position < world.calls.length
      · rw [List.getElem?_append_left below] at called
        rw [round_append _ below]
        obtain ⟨entered, bound⟩ := rounded.entered position call called sameId
        exact ⟨entered, bound.trans (grows _)⟩
      · obtain ⟨rfl, rfl⟩ := getElem?_append_new below called
        subst sameId
        obtain ⟨rfl, free⟩ := correct rfl
        rw [round_new, rounded.round_now (inv.room free)]
        exact ⟨rounded.generations caller, grows caller⟩
  · intro position call called sameId succeeded
    rcases step_calls taken with ⟨calls, returns⟩ | ⟨caller, other, count, rfl, results, calls⟩
    · rw [calls] at called ⊢
      rcases returns position call called succeeded with earlier | left
      · exact (rounded.results position call called sameId earlier).trans_le (grows _)
      · obtain ⟨entered, bound⟩ := rounded.entered position call called sameId
        have passes : round participants world.calls position ≠ rounds call.host := by
          intro same
          rw [sameId, rounded.generations, entered, same] at left
          exact left rfl
        have := grows call.host
        omega
    · rw [results] at succeeded
      have below : position < world.calls.length := by
        by_contra beyond
        rw [inv.returned position (Nat.le_of_not_lt beyond)] at succeeded
        cases succeeded
      rw [calls] at called ⊢
      rw [List.getElem?_append_left below] at called
      rw [round_append _ below]
      exact (rounded.results position call called sameId succeeded).trans_le (grows _)

theorem reached_rounds
    (execution : Run.ReachesBy next (UsesCorrectly participants id) (initial cluster) world) :
    UseInv participants id world ∧ ∃ rounds, RoundInv participants id world rounds := by
  apply execution.preserves fun world =>
    UseInv participants id world ∧ ∃ rounds, RoundInv participants id world rounds
  · refine ⟨initial_use participants id, fun _ => 0, ?_⟩
    constructor <;> simp [initial, BarrierEntry.fresh, callCount]
  · rintro before op after ⟨inv, rounds, rounded⟩ correct performed
    obtain ⟨⟨status, reached⟩, taken, same⟩ := Option.map_eq_some_iff.mp performed
    obtain rfl : reached = after := same
    exact ⟨inv.step correct taken, rounded.step inv correct taken⟩

/-- When a call of a round has returned success, every host has had all its calls of the round. -/
theorem RoundInv.full (rounded : RoundInv participants id world rounds)
    (inv : UseInv participants id world) {position : Nat} {call : BarrierCall cluster}
    (called : world.calls[position]? = some call) (sameId : call.id = id)
    (succeeded : world.results position = some .ok) (host : cluster.Host) :
    (round participants world.calls position + 1) * participants host ≤
      callCount world.calls host id := by
  have left := rounded.results position call called sameId succeeded
  have leads : round participants world.calls position < rounds (coordinator cluster) := by
    by_cases here : call.host = coordinator cluster
    · rwa [here] at left
    · have := rounded.ahead call.host here
      omega
  have enough : ∀ other, round participants world.calls position < rounds other →
      (round participants world.calls position + 1) * participants other ≤
        callCount world.calls other id := by
    intro other passed
    rw [rounded.totals]
    exact (Nat.mul_le_mul_right _ passed).trans (Nat.le_add_right _ _)
  by_cases passed : round participants world.calls position < rounds host
  · exact enough host passed
  · have member : host ≠ coordinator cluster := by
      rintro rfl
      exact passed leads
    have ahead := rounded.ahead host member
    have same : rounds host = round participants world.calls position := by omega
    rcases inv.level member with level | ⟨-, reported⟩
    · rw [rounded.generations, rounded.generations] at level
      simp only [generationModulus] at level
      omega
    · rw [rounded.totals, reported, same, Nat.add_mul, Nat.one_mul]

/-- A call that is counted after another one has returned success is of a later round. -/
theorem RoundInv.later (rounded : RoundInv participants id world rounds)
    (inv : UseInv participants id world) {position : Nat} {call : BarrierCall cluster}
    (called : world.calls[position]? = some call) (sameId : call.id = id)
    (succeeded : world.results position = some .ok) (host : cluster.Host)
    (positive : 0 < participants host) :
    round participants world.calls position < callCount world.calls host id / participants host :=
  (Nat.le_div_iff_mul_le positive).mpr (rounded.full inv called sameId succeeded host)

end Runs

end BarrierWorld
end Cxloom.LoomPar
